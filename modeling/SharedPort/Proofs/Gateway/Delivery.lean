import SharedPort.Proofs.Gateway.AnyListener
import SharedPort.Proofs.Gateway.Loops
import SharedPort.Proofs.Stream.Steady

/-! What is known of a connection by how far its worker has come: which bytes were read, where the registry leads them,
and that they and all that is still to come make up the whole stream. What is on its way to a route, or was forwarded
there, carries its first bytes along. -/
namespace SharedPort.Gateway
open SharedPort.Selector (State Routed Worker WorkerStage Arrival Waiter)
open SharedPort.Selector.State (readStage)
open SharedPort.Stream (Attempt Gather Script Scripted)

/- `header` was read from the connection, and the rest is still to come. -/
structure Prefixed (g : Gateway) (caller : Caller) (header : Bytes) : Prop where
  size : header.length = g.selector.setup.headerSize
  order : header ++ caller.now.reads.whole = caller.whole

theorem Prefixed.header {g : Gateway} {caller : Caller} {header : Bytes} (prefixed : Prefixed g caller header) :
    header = caller.whole.take g.selector.setup.headerSize := by
  rw [← prefixed.order, ← prefixed.size, List.take_left]

theorem Prefixed.long {g : Gateway} {caller : Caller} {header : Bytes} (prefixed : Prefixed g caller header) :
    g.selector.setup.headerSize ≤ caller.whole.length := by
  rw [← prefixed.order, ← prefixed.size, List.length_append]
  exact Nat.le_add_right _ _

def route (g : Gateway) (header : Bytes) : Option Nat :=
  g.selector.registry.route g.selector.setup.rule g.selector.setup.headerSize header

def Told (g : Gateway) (caller : Caller) : WorkerStage → Prop
  | .peeking missing got => got ++ caller.now.reads.whole = caller.whole ∧
      got.length + missing = g.selector.setup.headerSize ∧ 0 < missing
  | .peeked header => Prefixed g caller header
  | .found header l => Prefixed g caller header ∧ g.route header = some l
  | .ringing l | .settled (.queued l) => ∃ header, Prefixed g caller header ∧ g.route header = some l
  | .settled .unroutable => ∃ header, Prefixed g caller header ∧ g.route header = none
  | .settled (.peekFailed cause) =>
      (∃ limit, cause = .peekTimeout limit) ∨ caller.whole.length < g.selector.setup.headerSize
  | .settled (.rejected _ why) => why = .full
  | .settled .aborted => False

structure Tended (g : Gateway) (caller : Caller) (stage : WorkerStage) : Prop where
  lasts : caller.now.reads.Lasts
  sink : caller.now.sink = caller.start.sink
  told : Told g caller stage

theorem tendedRead {g : Gateway} {caller : Caller} {missing : Nat} {got : Bytes} (now : Nat)
    (tended : Tended g caller (.peeking missing got)) :
    Tended g { caller with now := (caller.now.read now missing).2 }
      (readStage (Gather.feed missing got (caller.now.read now missing).1)) := by
  obtain ⟨lasts, sink, order, sum, more⟩ := tended
  obtain ⟨still, move⟩ := Script.readMove now [] [] lasts more
  have fits := Script.readFits now missing caller.now.reads
  refine ⟨still, sink, ?_⟩
  change Told g _ (readStage (Gather.feed missing got (caller.now.reads.read now missing).1))
  generalize (caller.now.reads.read now missing).1 = attempt at move fits
  have whole : ∀ b : Bytes, caller.now.reads.whole = b ++ ((caller.now.reads.read now missing).2).whole →
      (got ++ b) ++ ((caller.now.reads.read now missing).2).whole = caller.whole := by
    intro b rest
    rw [List.append_assoc, ← rest, order]
  cases move with
  | @gave bytes nonempty rest =>
    obtain ⟨b, bytes, rfl⟩ := List.exists_cons_of_ne_nil nonempty
    have size : (b :: bytes).length ≤ missing := of_decide_eq_true fits
    simp only [Gather.feed, Gather.needing]
    by_cases enough : missing - (b :: bytes).length = 0
    · rw [if_pos enough]
      refine ⟨?_, whole _ rest⟩
      rw [List.length_append]
      omega
    · rw [if_neg enough]
      refine ⟨whole _ rest, ?_, by omega⟩
      rw [List.length_append]
      omega
  | ended rest =>
    refine .inr ?_
    change caller.whole.length < _
    have drained : caller.now.reads.whole = [] := rest
    rw [← order, drained, List.append_nil]
    omega
  | waited rest => exact ⟨(congrArg (got ++ ·) rest).trans order, sum, more⟩

theorem tendedTurn {g : Gateway} {w : World} {t : Turn} {i : Nat} {arrival : Arrival} {stage next : WorkerStage}
    {caller caller' : Caller} (sound : Sound g w) (registered : ∀ p l, g.route p = some l → l < g.routes.length)
    (found : w.callers[i]? = some caller) (found' : (w.turn t).callers[i]? = some caller')
    (tended : Tended g caller stage) (turn : WorkerTurn w (w.turn t) t i arrival stage next) :
    Tended g caller' next := by
  have same : (w.turn t).callers[i]? = w.callers[i]? → caller' = caller := by
    intro same
    rw [same, found] at found'
    exact (Option.some.inj found').symm
  have routes : ∀ header, w.selector.registry.route w.selector.setup.rule w.selector.setup.headerSize header =
      g.route header := by
    intro header
    rw [sound.registry, sound.setup, route]
  obtain ⟨lasts, sink, told⟩ := tended
  cases turn with
  | rest _ still =>
    rw [same still]
    exact ⟨lasts, sink, told⟩
  | read _ present after =>
    obtain rfl := Option.some.inj (found.symm.trans present)
    obtain rfl := Option.some.inj (found'.symm.trans after)
    exact tendedRead _ ⟨lasts, sink, told⟩
  | late _ still =>
    rw [same still]
    exact ⟨lasts, sink, .inl ⟨_, rfl⟩⟩
  | routed _ still way =>
    rw [same still]
    exact ⟨lasts, sink, told, by rw [← routes, way]⟩
  | astray _ still way =>
    rw [same still]
    exact ⟨lasts, sink, _, told, by rw [← routes, way]⟩
  | pushed _ still =>
    rw [same still]
    exact ⟨lasts, sink, _, told⟩
  | refused _ still =>
    rw [same still]
    exact ⟨lasts, sink, rfl⟩
  | vanished _ _ missing =>
    have inside := Nat.lt_of_lt_of_le (registered _ _ told.2) sound.listeners
    rw [List.getElem?_eq_getElem inside] at missing
    cases missing
  | rung _ still =>
    rw [same still]
    exact ⟨lasts, sink, told⟩

theorem WorkerTurn.caller {w w' : World} {t : Turn} {i : Nat} {arrival : Arrival} {stage next : WorkerStage}
    (turn : WorkerTurn w w' t i arrival stage next) :
    w'.callers[i]? = w.callers[i]? ∨ ∃ missing got caller now, stage = .peeking missing got ∧
      w.callers[i]? = some caller ∧ w'.callers[i]? = some { caller with now } := by
  cases turn with
  | read _ found after => exact .inr ⟨_, _, _, _, rfl, found, after⟩
  | rest _ still | late _ still | routed _ still | astray _ still | pushed _ still | refused _ still
  | vanished _ still | rung _ still => exact .inl still

structure Ready (g : Gateway) : Prop where
  headerSize : 0 < g.selector.setup.headerSize
  registered : ∀ p l, g.route p = some l → l < g.routes.length

def AllTended (g : Gateway) (w : World) : Prop :=
  ∀ (i : Nat) (v : Worker) (caller : Caller), w.selector.workers[i]? = some v → w.callers[i]? = some caller →
    caller.start.reads.Lasts → Tended g caller v.stage

theorem callerOf {g : Gateway} {w : World} {i : Nat} {v : Worker} (sound : Sound g w)
    (found : w.selector.workers[i]? = some v) : ∃ caller, w.callers[i]? = some caller :=
  ⟨_, List.getElem?_eq_getElem (sound.counted ▸ (List.getElem?_eq_some_iff.mp found).1)⟩

theorem allTendedTurn {g : Gateway} {w : World} (ready : Ready g) (sound : Sound g w) (tended : AllTended g w)
    (t : Turn) : AllTended g (w.turn t) := by
  intro i v' caller' found' present' lasts
  cases found : w.selector.workers[i]? with
  | some v =>
    obtain ⟨caller, present⟩ := callerOf sound found
    obtain ⟨stage, next, turn⟩ := workerTurn sound t found
    obtain rfl := Option.some.inj (next.symm.trans found')
    have start : caller'.start = caller.start := by
      rcases turn.caller with same | ⟨_, _, other, now, _, before, after⟩
      · rw [same, present] at present'
        rw [Option.some.inj present']
      · obtain rfl := Option.some.inj (present.symm.trans before)
        rw [← Option.some.inj (after.symm.trans present')]
    exact tendedTurn sound ready.registered present present' (tended i v caller found present (start ▸ lasts)) turn
  | none =>
    obtain ⟨number, _, stage, stream, callers⟩ := newWorker t found found'
    rw [callers, number, sound.counted, List.getElem?_concat_length] at present'
    obtain rfl := Option.some.inj present'
    rw [stage, sound.setup]
    exact ⟨lasts, rfl, rfl, Nat.zero_add _, ready.headerSize⟩

/- What is on its way to route `l`: a worker delivered it there, and it carries what that worker read. -/
structure Carried (g : Gateway) (w : World) (l : Nat) (routed : Routed) : Prop where
  worker : ∃ v, w.selector.workers[routed.stream.inner]? = some v ∧
    (v.stage = .ringing l ∨ v.stage = .settled (.queued l))
  stream : routed.stream = .ofHeader routed.stream.inner routed.stream.header
  told : ∀ caller, w.callers[routed.stream.inner]? = some caller → caller.start.reads.Lasts →
    Prefixed g caller routed.stream.header ∧ g.route routed.stream.header = some l

theorem Carried.turn {g : Gateway} {w : World} {l : Nat} {routed : Routed} (sound : Sound g w)
    (carried : Carried g w l routed) (t : Turn) : Carried g (w.turn t) l routed := by
  obtain ⟨⟨v, found, past⟩, stream, told⟩ := carried
  obtain ⟨stage, next, turn⟩ := workerTurn sound t found
  have callers : (w.turn t).callers[routed.stream.inner]? = w.callers[routed.stream.inner]? := by
    rcases turn.caller with same | ⟨_, _, _, _, reads, _, _⟩
    · exact same
    · rcases past with h | h <;> (rw [h] at reads; cases reads)
  refine ⟨⟨_, next, ?_⟩, stream, fun caller present => told caller (callers ▸ present)⟩
  dsimp only
  rcases past with h | h
  · rw [h] at turn
    cases turn with
    | rest => exact .inl rfl
    | rung => exact .inr rfl
  · rw [h] at turn
    cases turn with
    | rest => exact .inr rfl

def connections (v : Serving) : List Routed := v.loop.forwards.map ForwardTask.connection

structure AllCarried (g : Gateway) (w : World) : Prop where
  queued : ∀ l, ∀ routed ∈ w.selector.waiting l, Carried g w l routed
  results : ∀ (l : Nat) (v : Serving) (x : Waiter) (routed : Routed), w.loops[l]? = some v →
    w.selector.WaiterAt l v.waiting (some x) → x.result = some routed → Carried g w l routed
  forwarded : ∀ (l : Nat) (v : Serving), w.loops[l]? = some v → ∀ routed ∈ connections v, Carried g w l routed

theorem LoopTurn.connections {w w' : World} {t : Turn} {l : Nat} {v v' : Serving} {x y : Option Waiter}
    (serving : v.loop.stage = .serving) (turn : LoopTurn w w' t l v v' x y) :
    connections v' = connections v ∨ ∃ routed, x = some (.returned routed) ∧ y = none ∧
      connections v' = connections v ++ [routed] := by
  cases turn with
  | rest _ same | rung _ _ _ same | stepped _ same => rw [same]; exact .inl rfl
  | listened _ _ same => exact .inl (by rw [Gateway.connections, same, Gateway.connections])
  | @taken routed _ _ same =>
    refine .inr ⟨routed, rfl, rfl, ?_⟩
    rw [Gateway.connections, same, RouteLoop.accepted, if_pos serving, List.map_append]
    rfl
  | noted _ same => exact .inl (by rw [Gateway.connections, same]; exact connectionsMove _ _ _ _)
  | joined _ _ same => exact .inl (by rw [Gateway.connections, same]; exact connectionsMove _ _ _ _)

theorem resultRing (x : Waiter) : x.ring.result = x.result := by cases x <;> rfl

theorem resultsTurn {g : Gateway} {w w' : World} {t : Turn} {l : Nat} {v v' : Serving} {x : Option Waiter} {y : Waiter}
    {routed : Routed} (carried : AllCarried g w) (loop : w.loops[l]? = some v) (waiter : w.selector.WaiterAt l v.waiting x)
    (turn : LoopTurn w w' t l v v' x (some y)) (result : y.result = some routed) : Carried g w l routed := by
  generalize next : some y = z at turn
  cases turn with
  | rest _ same =>
    subst next
    exact carried.results l v y routed loop waiter result
  | rung _ _ _ same =>
    cases x with
    | none => cases next
    | some x =>
      obtain rfl := Option.some.inj next
      rw [resultRing] at result
      exact carried.results l v x routed loop waiter result
  | noted =>
    subst next
    exact carried.results l v y routed loop waiter result
  | listened =>
    obtain rfl := Option.some.inj next
    cases result
  | taken | joined => cases next
  | stepped _ _ move =>
    obtain rfl := Option.some.inj next
    cases move with
    | popped waits =>
      obtain rfl := Option.some.inj result
      exact carried.queued l _ (by rw [waits]; exact List.mem_cons_self)
    | left | stays => exact carried.results l v _ routed loop waiter result
    | entered | slept | woken | sleeps => cases result

theorem allCarriedTurn {g : Gateway} {w : World} (sound : Sound g w) (tended : AllTended g w)
    (carried : AllCarried g w) (t : Turn) : AllCarried g (w.turn t) := by
  refine ⟨fun l routed member => ?_, fun l v' x' routed loop' waiter' result => ?_, fun l v' loop' routed member => ?_⟩
  · cases queueTurn sound t l with
    | still same => exact (carried.queued l routed (same ▸ member)).turn sound t
    | popped _ _ _ waits =>
      have queued := carried.queued l routed (by rw [waits]; exact List.mem_cons_of_mem _ member)
      exact queued.turn sound t
    | @pushed i v header event worker stage next grown =>
      rw [grown] at member
      rcases List.mem_append.mp member with old | new
      · exact (carried.queued l routed old).turn sound t
      · obtain rfl := List.mem_singleton.mp new
        have number := sound.numbered i v worker
        refine ⟨⟨_, by rw [← number] at next; exact next, .inl rfl⟩, rfl, fun caller' present' lasts => ?_⟩
        have idle : (w.turn t).callers = w.callers := by rw [event]; rfl
        rw [idle, show (Stream.Replay.ofHeader v.arrival.connection header).inner = i from number] at present'
        have told := (tended i v caller' worker present' lasts).told
        rw [stage] at told
        exact told
  · obtain ⟨v, x, y, loop, waiter, waiterY, turn⟩ := loopBefore sound loop'
    obtain rfl := waiterY.unique waiter'
    exact (resultsTurn carried loop waiter turn result).turn sound t
  · obtain ⟨v, x, y, loop, waiter, _, turn⟩ := loopBefore sound loop'
    rcases turn.connections (sound.loops l v loop).serving with same | ⟨taken, rfl, _, grown⟩
    · exact (carried.forwarded l v loop routed (same ▸ member)).turn sound t
    · rw [grown] at member
      rcases List.mem_append.mp member with old | new
      · exact (carried.forwarded l v loop routed old).turn sound t
      · obtain rfl := List.mem_singleton.mp new
        exact (carried.results l v _ routed loop waiter rfl).turn sound t

end SharedPort.Gateway
