import SharedPort.Proofs.Gateway.Turns

/-! What one turn does to the queue of a listener and to the loop that serves it. -/
namespace SharedPort.Gateway
open SharedPort.Selector (State Routed Worker Waiter)
open SharedPort.Selector.State (WaiterMove Elsewhere)

theorem awaitedLoop {w : World} {l call : Nat} (awaited : w.awaited l = some call) :
    ∃ v, w.loops[l]? = some v ∧ v.waiting = some call := Option.bind_eq_some_iff.mp awaited

inductive QueueTurn (w w' : World) (t : Turn) (l : Nat) : Prop where
  | still (same : w'.selector.waiting l = w.selector.waiting l)
  | pushed {i : Nat} {v : Worker} {header : Bytes} (event : t = .route i) (worker : w.selector.workers[i]? = some v)
      (stage : v.stage = .found header l) (next : w'.selector.workers[i]? = some { v with stage := .ringing l })
      (grown : w'.selector.waiting l =
        w.selector.waiting l ++ [⟨.ofHeader v.arrival.connection header, v.arrival.peer⟩])
  | popped {routed : Routed} {v : Serving} {ticket : Listener.Ticket} (event : t = .accept l)
      (loop : w.loops[l]? = some v) (looks : w.selector.WaiterAt l v.waiting (some (.looking ticket)))
      (waits : w.selector.waiting l = routed :: w'.selector.waiting l)

theorem queueTurn {g : Gateway} {w : World} (sound : Sound g w) (t : Turn) (l : Nat) : QueueTurn w (w.turn t) t l := by
  rcases turnActs w t with same | ⟨e, acts, same⟩
  · exact .still (by rw [same])
  · cases Selector.State.queueMoves w.selector e with
    | still rest => exact .still (by rw [same, rest])
    | @pushed i k v header L event worker stage _ _ _ grown next =>
      cases acts with
      | route =>
        cases event
        by_cases here : l = k
        · subst k
          exact .pushed rfl worker stage (by rw [same, next]) (by rw [same, grown, if_pos rfl])
        · exact .still (by rw [same, grown, if_neg here])
      | serve | serveStep | hiccup | arrive | read | late | listen | accept | join | advance => cases event
    | @popped call k routed rest event looks waits shrunk =>
      cases acts with
      | @accept l' _ awaited =>
        cases event
        obtain ⟨v, loop, waiting⟩ := awaitedLoop awaited
        obtain ⟨x, waiter⟩ := (sound.loops l' v loop).waiter
        rw [waiting] at waiter
        cases waiter with
        | @waits _ x found held =>
          have here := Option.some.inj (looks.symm.trans found)
          obtain rfl : k = l' := congrArg Selector.Accept.listener here
          by_cases own : l = k
          · subst k
            have look : Selector.AcceptStage.looking = x.stage := congrArg Selector.Accept.stage here
            cases x with
            | looking ticket =>
              have looking : w.selector.WaiterAt l v.waiting (some (.looking ticket)) := by
                rw [waiting]
                exact .waits found held
              exact .popped rfl loop looking (by rw [same, shrunk, if_pos rfl, waits])
            | begun | entering | sleeping | leaving | returned => cases look
          · exact .still (by rw [same, shrunk, if_neg own])
      | serve | serveStep | hiccup | arrive | read | late | route | listen | join | advance => cases event

def loopDuty (l : Nat) : Option Waiter → Duty
  | none => .listen l
  | some (.returned _) => .take l
  | some _ => .accept l

theorem otherDuty (d : Duty) (l : Nat) (x : Option Waiter) (others : ∀ l, d ≠ .listen l ∧ d ≠ .accept l ∧ d ≠ .take l) :
    some d ≠ some (loopDuty l x) := by
  intro own
  obtain ⟨listen, accept, take⟩ := others l
  cases x with
  | none => exact listen (Option.some.inj own)
  | some x =>
    cases x with
    | returned => exact take (Option.some.inj own)
    | begun | entering | looking | sleeping | leaving => exact accept (Option.some.inj own)

inductive LoopTurn (w w' : World) (t : Turn) (l : Nat) (v v' : Serving) : Option Waiter → Option Waiter → Prop where
  | rest {x} (other : t.duty ≠ some (loopDuty l x)) (same : v' = v) : LoopTurn w w' t l v v' x x
  | rung {x i u} (event : t = .route i) (worker : w.selector.workers[i]? = some u) (stage : u.stage = .ringing l)
      (same : v' = v) : LoopTurn w w' t l v v' x (x.map Waiter.ring)
  | listened (event : t = .listen l) (listener : v'.listener = v.listener) (same : v'.loop = v.loop) :
      LoopTurn w w' t l v v' none (some .begun)
  | stepped {x y} (event : t = .accept l) (same : v' = v) (move : WaiterMove w.selector w'.selector l x y) :
      LoopTurn w w' t l v v' (some x) (some y)
  | taken {routed} (event : t = .take l) (listener : v'.listener = v.listener)
      (same : v'.loop = v.loop.accepted routed) :
      LoopTurn w w' t l v v' (some (.returned routed)) none
  | noted {x j} (event : t = .ended l j) (same : v' = { v with loop := v.loop.forwardEnded j }) :
      LoopTurn w w' t l v v' x x
  | joined {x j} (event : t = .join l j) (listener : v'.listener = v.listener) (same : v'.loop = v.loop.join j)
      (isDone : (v.loop.forwards[j]?).any (·.stage = .ended) = true)
      (rests : x = none ∨ x = some .begun ∨ ∃ ticket, x = some (.sleeping ticket)) : LoopTurn w w' t l v v' x none

theorem loopsStill {w : World} {t : Turn} {l : Nat} (others : t ≠ .listen l ∧ t ≠ .take l ∧
    ∀ j, t ≠ .ended l j ∧ t ≠ .join l j) : (w.turn t).loops[l]? = w.loops[l]? := by
  have step : ∀ {k : Nat} {change}, k ≠ l → (w.step k change).loops[l]? = w.loops[l]? := by
    intro k change different
    simp only [World.step]
    cases w.loops[k]? with
    | none => rfl
    | some v => exact List.getElem?_set_ne different
  cases t with
  | serve | serveStep | late | route | advance => rfl
  | hiccup call cause =>
    simp only [World.turn]
    split <;> rfl
  | arrive call peer stream =>
    simp only [World.turn]
    split <;> rfl
  | read i =>
    change (w.read i).loops[l]? = _
    unfold World.read
    split
    · split <;> rfl
    · rfl
  | accept k =>
    simp only [World.turn]
    cases w.awaited k <;> rfl
  | listen k => exact step fun h => others.1 (h ▸ rfl)
  | take k => exact step fun h => others.2.1 (h ▸ rfl)
  | ended k j => exact step fun h => (others.2.2 j).1 (h ▸ rfl)
  | join k j => exact step fun h => (others.2.2 j).2 (h ▸ rfl)

theorem restLoop {w : World} {t : Turn} {l : Nat} {v : Serving} {x : Option Waiter} (loop : w.loops[l]? = some v)
    (waiter : w.selector.WaiterAt l v.waiting x) (loops : (w.turn t).loops[l]? = w.loops[l]?)
    (accepts : ∀ call, v.waiting = some call → (w.turn t).selector.accepts[call]? = w.selector.accepts[call]?)
    (tickets : (w.turn t).selector.tickets l = w.selector.tickets l) (other : t.duty ≠ some (loopDuty l x)) :
    ∃ v' y, (w.turn t).loops[l]? = some v' ∧ (w.turn t).selector.WaiterAt l v'.waiting y ∧
      LoopTurn w (w.turn t) t l v v' x y :=
  ⟨v, x, loops.trans loop, waiter.congr accepts tickets, .rest other rfl⟩

theorem asideLoop {w : World} {t : Turn} {l : Nat} {v : Serving} {x : Option Waiter} (unclosed : w.selector.Unclosed)
    (loop : w.loops[l]? = some v) (waiter : w.selector.WaiterAt l v.waiting x)
    (loops : (w.turn t).loops[l]? = w.loops[l]?) (other : t.duty ≠ some (loopDuty l x))
    (aside : ∀ e, Acts w t e → ∀ n, e ≠ .workerStep n ∧ e ≠ .beginAccept n ∧ e ≠ .acceptStep n ∧ e ≠ .cancelAccept n) :
    ∃ v' y, (w.turn t).loops[l]? = some v' ∧ (w.turn t).selector.WaiterAt l v'.waiting y ∧
      LoopTurn w (w.turn t) t l v v' x y := by
  rcases turnActs w t with same | ⟨e, acts, same⟩
  · exact restLoop loop waiter loops (fun _ _ => by rw [same]) (by rw [same]) other
  · obtain ⟨accepts, listeners⟩ := Selector.State.callsApply unclosed acts.spares (aside e acts)
    refine restLoop loop waiter loops (fun _ _ => by rw [same, accepts]) ?_ other
    rw [same, State.tickets, listeners, State.tickets]

theorem otherLoop {w : World} {t : Turn} {l k call : Nat} {v : Serving} {x : Option Waiter} {y : Waiter}
    (loop : w.loops[l]? = some v) (waiter : w.selector.WaiterAt l v.waiting x) (different : l ≠ k)
    (loops : (w.turn t).loops[l]? = w.loops[l]?) (others : w.selector.WaiterAt k (some call) (some y))
    (elsewhere : Elsewhere w.selector (w.turn t).selector call k) (other : t.duty ≠ some (loopDuty l x)) :
    ∃ v' y, (w.turn t).loops[l]? = some v' ∧ (w.turn t).selector.WaiterAt l v'.waiting y ∧
      LoopTurn w (w.turn t) t l v v' x y := by
  refine restLoop loop waiter loops (fun own waiting => elsewhere.accepts own ?_) (elsewhere.tickets l different) other
  rintro rfl
  rw [waiting] at waiter
  cases waiter with
  | waits mine =>
    cases others with
    | waits theirs => exact different (congrArg Selector.Accept.listener (Option.some.inj (mine.symm.trans theirs)))

theorem Sound.present {g : Gateway} {w : World} {l : Nat} {v : Serving} (sound : Sound g w)
    (loop : w.loops[l]? = some v) : l < w.selector.listeners.length := by
  obtain ⟨route, found, _⟩ := Option.map_eq_some_iff.mp (sound.loops l v loop).target
  exact Nat.lt_of_lt_of_le (List.getElem?_eq_some_iff.mp found).1 sound.listeners

theorem stepSelf {w : World} {l : Nat} {v : Serving} (loop : w.loops[l]? = some v)
    (change : Serving → State → Serving × State) :
    (w.step l change).loops[l]? = some (change v w.selector).1 ∧
      (w.step l change).selector = (change v w.selector).2 := by
  simp only [World.step, loop]
  exact ⟨List.getElem?_set_self (List.getElem?_eq_some_iff.mp loop).1, trivial⟩

theorem listenNow {v : Serving} (s : State) (serving : v.loop.stage = .serving) (waiting : v.waiting = none) :
    v.listen s = ({ v with waiting := some s.accepts.length }, s.beginAccept v.listener) :=
  if_pos ⟨serving, waiting⟩

theorem listenLater {v : Serving} (s : State) {call : Nat} (waiting : v.waiting = some call) : v.listen s = (v, s) :=
  if_neg fun h => by
    rw [waiting] at h
    cases h.2

theorem listenLoop {g : Gateway} {w : World} {l : Nat} {v : Serving} {x : Option Waiter} (sound : Sound g w) (k : Nat)
    (loop : w.loops[l]? = some v) (waiter : w.selector.WaiterAt l v.waiting x) :
    ∃ v' y, (w.turn (.listen k)).loops[l]? = some v' ∧ (w.turn (.listen k)).selector.WaiterAt l v'.waiting y ∧
      LoopTurn w (w.turn (.listen k)) (.listen k) l v v' x y := by
  by_cases same : l = k
  · subst k
    obtain ⟨listener, _, serving, _⟩ := sound.loops l v loop
    obtain ⟨loops, selector⟩ := stepSelf loop Serving.listen
    cases waiting : v.waiting with
    | none =>
      rw [listenNow w.selector serving waiting] at loops selector
      rw [waiting] at waiter
      cases waiter with
      | idle empty =>
        refine ⟨_, some .begun, loops, ?_, .listened rfl rfl rfl⟩
        change (w.step l _).selector.WaiterAt l (some _) _
        rw [selector, listener]
        exact .waits List.getElem?_concat_length empty
    | some call =>
      rw [listenLater w.selector waiting] at loops selector
      refine restLoop loop waiter (loops.trans loop.symm) (fun _ _ => congrArg (·.accepts[_]?) selector)
        (congrArg (State.tickets · l) selector) ?_
      cases x with
      | none =>
        rw [waiting] at waiter
        cases waiter
      | some x => cases x <;> exact nofun
  · have loops : (w.turn (.listen k)).loops[l]? = w.loops[l]? :=
      loopsStill ⟨fun h => same (Turn.listen.inj h).symm, nofun, fun _ => ⟨nofun, nofun⟩⟩
    have other : (Turn.listen k).duty ≠ some (loopDuty l x) := by
      cases x with
      | none => exact fun h => same (Duty.listen.inj (Option.some.inj h)).symm
      | some x => cases x <;> exact nofun
    rcases turnActs w (.listen k) with still | ⟨e, acts, next⟩
    · exact restLoop loop waiter loops (fun _ _ => by rw [still]) (by rw [still]) other
    · cases acts
      refine restLoop loop waiter loops (fun call waiting => ?_) (by rw [next]; rfl) other
      rw [waiting] at waiter
      cases waiter with
      | waits found =>
        rw [next]
        exact List.getElem?_append_left (List.getElem?_eq_some_iff.mp found).1

theorem loopDutyOwn {l k : Nat} {x : Waiter} (own : some (Duty.accept k) = some (loopDuty l (some x))) : k = l := by
  cases x with
  | returned => cases own
  | begun | entering | looking | sleeping | leaving => exact Duty.accept.inj (Option.some.inj own)

theorem acceptLoop {g : Gateway} {w : World} {l : Nat} {v : Serving} {x : Option Waiter} (sound : Sound g w) (k : Nat)
    (loop : w.loops[l]? = some v) (waiter : w.selector.WaiterAt l v.waiting x) :
    ∃ v' y, (w.turn (.accept k)).loops[l]? = some v' ∧ (w.turn (.accept k)).selector.WaiterAt l v'.waiting y ∧
      LoopTurn w (w.turn (.accept k)) (.accept k) l v v' x y := by
  have loops : (w.turn (.accept k)).loops[l]? = w.loops[l]? := loopsStill (by simp)
  have turn : ∀ {call}, w.awaited k = some call → (w.turn (.accept k)).selector = w.selector.acceptStep call := by
    intro call awaited
    simp only [World.turn, awaited, Option.map_some, Option.getD_some, World.act, State.apply]
  by_cases same : l = k
  · subst k
    cases waiting : v.waiting with
    | none =>
      have awaited : w.awaited l = none := by simp only [World.awaited, loop, Option.bind_some, waiting]
      have still : w.turn (.accept l) = w := by simp only [World.turn, awaited, Option.map_none, Option.getD_none]
      refine restLoop loop waiter loops (fun _ _ => by rw [still]) (by rw [still]) ?_
      rw [waiting] at waiter
      cases waiter
      rintro ⟨⟩
    | some call =>
      have step := @turn call (by simp only [World.awaited, loop, Option.bind_some, waiting])
      rw [waiting] at waiter
      cases x with
      | none => cases waiter
      | some x =>
        obtain ⟨y, next, move, _⟩ := State.waiterStep sound.unclosed waiter (sound.present loop)
        rw [← step] at next move
        exact ⟨v, some y, loops.trans loop, waiting ▸ next, .stepped rfl rfl move⟩
  · have other : (Turn.accept k).duty ≠ some (loopDuty l x) := by
      intro own
      cases x with
      | none => cases own
      | some x => exact same (loopDutyOwn own).symm
    cases awaited : w.awaited k with
    | none =>
      have still : w.turn (.accept k) = w := by simp only [World.turn, awaited, Option.map_none, Option.getD_none]
      exact restLoop loop waiter loops (fun _ _ => by rw [still]) (by rw [still]) other
    | some call =>
      obtain ⟨u, served, waiting⟩ := awaitedLoop awaited
      obtain ⟨y, others⟩ := (sound.loops k u served).waiter
      rw [waiting] at others
      cases y with
      | none => cases others
      | some y =>
        obtain ⟨_, _, _, elsewhere⟩ := State.waiterStep sound.unclosed others (sound.present served)
        rw [← turn awaited] at elsewhere
        exact otherLoop loop waiter same loops others elsewhere other

theorem takeNow {v : Serving} {s : State} {l call : Nat} {routed : Routed} (waiting : v.waiting = some call)
    (found : s.accepts[call]? = some ⟨l, .returned (.ok routed)⟩) :
    v.take s = { v with waiting := none, loop := v.loop.accepted routed } := by
  simp only [Serving.take, waiting, Option.bind_some, found]

theorem takeLater {v : Serving} {s : State} {l : Nat} {x : Option Waiter} (waiter : s.WaiterAt l v.waiting x)
    (running : ∀ routed, x ≠ some (.returned routed)) : v.take s = v := by
  cases waiting : v.waiting with
  | none => simp only [Serving.take, waiting, Option.bind_none]
  | some call =>
    rw [waiting] at waiter
    cases waiter with
    | @waits _ x found =>
      cases x with
      | returned routed => exact (running routed rfl).elim
      | begun | entering | looking | sleeping | leaving =>
        simp only [Serving.take, waiting, Option.bind_some, found, Waiter.stage]

theorem takeLoop {w : World} {l : Nat} {v : Serving} {x : Option Waiter} (k : Nat)
    (loop : w.loops[l]? = some v) (waiter : w.selector.WaiterAt l v.waiting x) :
    ∃ v' y, (w.turn (.take k)).loops[l]? = some v' ∧ (w.turn (.take k)).selector.WaiterAt l v'.waiting y ∧
      LoopTurn w (w.turn (.take k)) (.take k) l v v' x y := by
  have still : (w.turn (.take k)).selector = w.selector := by
    simp only [World.turn, World.step]
    cases w.loops[k]? <;> rfl
  by_cases same : l = k
  · subst k
    obtain ⟨loops, _⟩ := stepSelf loop fun v s => (v.take s, s)
    by_cases ready : ∃ routed, x = some (.returned routed)
    · obtain ⟨routed, rfl⟩ := ready
      cases waiting : v.waiting with
      | none =>
        rw [waiting] at waiter
        cases waiter
      | some call =>
        rw [waiting] at waiter
        cases waiter with
        | waits found held =>
          rw [takeNow waiting found] at loops
          exact ⟨_, none, loops, .idle (by rw [still]; exact held), .taken rfl rfl rfl⟩
    · have running : ∀ routed, x ≠ some (.returned routed) := fun routed h => ready ⟨routed, h⟩
      rw [takeLater waiter running] at loops
      refine restLoop loop waiter (loops.trans loop.symm) (fun _ _ => by rw [still]) (by rw [still]) ?_
      cases x with
      | none => rintro ⟨⟩
      | some x =>
        cases x with
        | returned routed => exact (running routed rfl).elim
        | begun | entering | looking | sleeping | leaving => rintro ⟨⟩
  · have loops : (w.turn (.take k)).loops[l]? = w.loops[l]? :=
      loopsStill (by simpa using Ne.symm same)
    refine restLoop loop waiter loops (fun _ _ => by rw [still]) (by rw [still]) fun own => ?_
    cases x with
    | none => cases own
    | some x =>
      cases x with
      | returned => exact same (Duty.take.inj (Option.some.inj own)).symm
      | begun | entering | looking | sleeping | leaving => cases own

theorem endedLoop {w : World} {l : Nat} {v : Serving} {x : Option Waiter} (k j : Nat)
    (loop : w.loops[l]? = some v) (waiter : w.selector.WaiterAt l v.waiting x) :
    ∃ v' y, (w.turn (.ended k j)).loops[l]? = some v' ∧ (w.turn (.ended k j)).selector.WaiterAt l v'.waiting y ∧
      LoopTurn w (w.turn (.ended k j)) (.ended k j) l v v' x y := by
  have still : (w.turn (.ended k j)).selector = w.selector := by
    simp only [World.turn, World.step]
    cases w.loops[k]? <;> rfl
  by_cases same : l = k
  · subst k
    obtain ⟨loops, _⟩ := stepSelf loop fun v s => ({ v with loop := v.loop.forwardEnded j }, s)
    exact ⟨_, x, loops, by rw [still]; exact waiter, .noted rfl rfl⟩
  · have loops : (w.turn (.ended k j)).loops[l]? = w.loops[l]? :=
      loopsStill (by simp [Ne.symm same])
    exact restLoop loop waiter loops (fun _ _ => by rw [still]) (by rw [still]) (by simp [Turn.duty])

theorem joinLater {v : Serving} {s : State} {j : Nat} (held : ¬ (v.loop.stage = .serving ∧
    (v.loop.forwards[j]?).any (·.stage = .ended) = true ∧ v.isFree s = true)) : v.join j s = (v, s) := if_neg held

theorem joinNow {v : Serving} {s : State} {j : Nat} (free : v.loop.stage = .serving ∧
    (v.loop.forwards[j]?).any (·.stage = .ended) = true ∧ v.isFree s = true) :
    v.join j s = ({ v with waiting := none, loop := v.loop.join j }, (v.waiting.map s.cancelAccept).getD s) :=
  if_pos free

theorem joinLoop {g : Gateway} {w : World} {l : Nat} {v : Serving} {x : Option Waiter} (sound : Sound g w) (k j : Nat)
    (loop : w.loops[l]? = some v) (waiter : w.selector.WaiterAt l v.waiting x) :
    ∃ v' y, (w.turn (.join k j)).loops[l]? = some v' ∧ (w.turn (.join k j)).selector.WaiterAt l v'.waiting y ∧
      LoopTurn w (w.turn (.join k j)) (.join k j) l v v' x y := by
  by_cases same : l = k
  · subst k
    obtain ⟨loops, selector⟩ := stepSelf loop fun v s => v.join j s
    by_cases free : v.loop.stage = .serving ∧ (v.loop.forwards[j]?).any (·.stage = .ended) = true ∧
        v.isFree w.selector = true
    · rw [joinNow free] at loops selector
      cases waiting : v.waiting with
      | none =>
        rw [waiting] at waiter selector
        cases waiter with
        | idle empty =>
          refine ⟨_, none, loops, .idle ?_, .joined rfl rfl rfl free.2.1 (.inl rfl)⟩
          exact (congrArg (State.tickets · l) selector).trans empty
      | some call =>
        have rests : w.selector.canCancelAccept call = true := by
          have isFree := free.2.2
          simpa only [Serving.isFree, waiting, Option.all_some] using isFree
        rw [waiting] at waiter selector
        cases x with
        | none => cases waiter
        | some x =>
          obtain ⟨next, before, _, _⟩ := State.waiterCancel waiter (sound.present loop) rests
          refine ⟨_, none, loops, ?_, .joined rfl rfl rfl free.2.1 (.inr ?_)⟩
          · change (w.step l _).selector.WaiterAt l none none
            rw [selector]
            exact next
          · rcases before with rfl | ⟨ticket, rfl⟩
            · exact .inl rfl
            · exact .inr ⟨ticket, rfl⟩
    · rw [joinLater free] at loops selector
      exact restLoop loop waiter (loops.trans loop.symm) (fun _ _ => congrArg (·.accepts[_]?) selector)
        (congrArg (State.tickets · l) selector) (by simp [Turn.duty])
  · have loops : (w.turn (.join k j)).loops[l]? = w.loops[l]? :=
      loopsStill (by simp [Ne.symm same])
    rcases turnActs w (.join k j) with still | ⟨e, acts, next⟩
    · exact restLoop loop waiter loops (fun _ _ => by rw [still]) (by rw [still]) (by simp [Turn.duty])
    · cases acts with
      | @join _ _ call awaited rests =>
        obtain ⟨u, served, waiting⟩ := awaitedLoop awaited
        obtain ⟨y, others⟩ := (sound.loops k u served).waiter
        rw [waiting] at others
        cases y with
        | none => cases others
        | some y =>
          obtain ⟨_, _, _, elsewhere⟩ := State.waiterCancel others (sound.present served) rests
          refine otherLoop loop waiter same loops others ?_ (by simp [Turn.duty])
          rw [next]
          exact elsewhere

/- A worker that rings the bell of a loop wakes the call that sleeps there. -/
theorem rungLoop {w : World} {i l : Nat} {u : Worker} {v : Serving} {x : Option Waiter}
    (worker : w.selector.workers[i]? = some u) (stage : u.stage = .ringing l)
    (waiter : w.selector.WaiterAt l v.waiting x) :
    (w.turn (.route i)).selector.WaiterAt l v.waiting (x.map Waiter.ring) :=
  waiter.ring (State.workerStepFrame w.selector i).2 (State.ticketsRung worker stage)

theorem routeLoop {w : World} {l : Nat} {v : Serving} {x : Option Waiter} (i : Nat)
    (loop : w.loops[l]? = some v) (waiter : w.selector.WaiterAt l v.waiting x) :
    ∃ v' y, (w.turn (.route i)).loops[l]? = some v' ∧ (w.turn (.route i)).selector.WaiterAt l v'.waiting y ∧
      LoopTurn w (w.turn (.route i)) (.route i) l v v' x y := by
  have accepts : (w.turn (.route i)).selector.accepts = w.selector.accepts := (State.workerStepFrame w.selector i).2
  rcases State.ticketsWorkerStep w.selector i l with same | ⟨u, worker, stage⟩
  · have other := otherDuty (.route i) l x fun _ => ⟨nofun, nofun, nofun⟩
    exact restLoop loop waiter rfl (fun _ _ => by rw [accepts]) same other
  · exact ⟨v, _, loop, rungLoop worker stage waiter, .rung rfl worker stage rfl⟩

/- A loop and its accept call move by their own turns, by a ring of their bell, and by nothing else. -/
theorem loopTurn {g : Gateway} {w : World} {l : Nat} {v : Serving} {x : Option Waiter} (sound : Sound g w) (t : Turn)
    (loop : w.loops[l]? = some v) (waiter : w.selector.WaiterAt l v.waiting x) :
    ∃ v' y, (w.turn t).loops[l]? = some v' ∧ (w.turn t).selector.WaiterAt l v'.waiting y ∧
      LoopTurn w (w.turn t) t l v v' x y := by
  have aside : (w.turn t).loops[l]? = w.loops[l]? → t.duty ≠ some (loopDuty l x) →
      (∀ e, Acts w t e → ∀ n, e ≠ .workerStep n ∧ e ≠ .beginAccept n ∧ e ≠ .acceptStep n ∧ e ≠ .cancelAccept n) →
      ∃ v' y, (w.turn t).loops[l]? = some v' ∧ (w.turn t).selector.WaiterAt l v'.waiting y ∧
        LoopTurn w (w.turn t) t l v v' x y := asideLoop sound.unclosed loop waiter
  cases t with
  | listen k => exact listenLoop sound k loop waiter
  | accept k => exact acceptLoop sound k loop waiter
  | take k => exact takeLoop k loop waiter
  | ended k j => exact endedLoop k j loop waiter
  | join k j => exact joinLoop sound k j loop waiter
  | route i => exact routeLoop i loop waiter
  | serve | serveStep | hiccup | arrive | late =>
    refine aside (loopsStill (by simp)) (by simp [Turn.duty]) fun e acts n => ?_
    cases acts
    simp
  | read i =>
    refine aside (loopsStill (by simp)) (otherDuty (.read i) l x (by simp)) fun e acts n => ?_
    cases acts
    simp
  | advance length =>
    refine aside (loopsStill (by simp)) (fun own => ?_) fun e acts n => ?_
    · simp only [Turn.duty] at own
      split at own
      · exact otherDuty .pass l x (by simp) own
      · cases own
    · cases acts
      simp

theorem loopsLength (w : World) (t : Turn) : (w.turn t).loops.length = w.loops.length := by
  have step : ∀ (l : Nat) change, (w.step l change).loops.length = w.loops.length := by
    intro l change
    simp only [World.step]
    cases w.loops[l]? with
    | none => rfl
    | some v => exact List.length_set
  cases t with
  | listen l | take l | ended l j | join l j => exact step l _
  | serve | serveStep | late | route | advance => rfl
  | hiccup call cause =>
    simp only [World.turn]
    split <;> rfl
  | arrive call peer stream =>
    simp only [World.turn]
    split <;> rfl
  | read i =>
    change (w.read i).loops.length = _
    unfold World.read
    split
    · split <;> rfl
    · rfl
  | accept l =>
    simp only [World.turn]
    cases w.awaited l <;> rfl

theorem acceptedFrame (r : RouteLoop Routed) (routed : Routed) :
    (r.accepted routed).target = r.target ∧ (r.accepted routed).stage = r.stage := by
  unfold RouteLoop.accepted
  split <;> exact ⟨rfl, rfl⟩

theorem loopBefore {g : Gateway} {w : World} {t : Turn} {l : Nat} {v' : Serving} (sound : Sound g w)
    (loop' : (w.turn t).loops[l]? = some v') : ∃ v x y, w.loops[l]? = some v ∧ w.selector.WaiterAt l v.waiting x ∧
      (w.turn t).selector.WaiterAt l v'.waiting y ∧ LoopTurn w (w.turn t) t l v v' x y := by
  have inside : l < w.loops.length := loopsLength w t ▸ (List.getElem?_eq_some_iff.mp loop').1
  obtain ⟨v, loop⟩ : ∃ v, w.loops[l]? = some v := ⟨_, List.getElem?_eq_getElem inside⟩
  obtain ⟨x, waiter⟩ := (sound.loops l v loop).waiter
  obtain ⟨u, y, next, waiter', turn⟩ := loopTurn sound t loop waiter
  obtain rfl := Option.some.inj (next.symm.trans loop')
  exact ⟨v, x, y, loop, waiter, waiter', turn⟩

theorem LoopTurn.frame {w w' : World} {t : Turn} {l : Nat} {v v' : Serving} {x y : Option Waiter}
    (turn : LoopTurn w w' t l v v' x y) :
    v'.listener = v.listener ∧ v'.loop.target = v.loop.target ∧ v'.loop.stage = v.loop.stage := by
  cases turn with
  | rest _ same | rung _ _ _ same | stepped _ same => rw [same]; exact ⟨rfl, rfl, rfl⟩
  | listened _ listener same => exact ⟨listener, by rw [same], by rw [same]⟩
  | @taken routed _ listener same =>
    obtain ⟨target, stage⟩ := acceptedFrame v.loop routed
    exact ⟨listener, by rw [same, target], by rw [same, stage]⟩
  | noted _ same => rw [same]; exact ⟨rfl, rfl, rfl⟩
  | joined _ listener same => exact ⟨listener, by rw [same]; rfl, by rw [same]; rfl⟩

theorem countedTurn {g : Gateway} {w : World} (sound : Sound g w) (t : Turn) :
    (w.turn t).selector.workers.length = (w.turn t).callers.length := by
  have worked : ∀ e, w.selector.joins e = [] → (w.selector.apply e).workers.length = w.selector.workers.length := by
    intro e idle
    have arrivals := congrArg List.length (State.arrivalsApply w.selector e)
    simpa only [idle, List.map_nil, List.append_nil, List.length_map] using arrivals
  cases idle : t.isWork with
  | false => rw [workersStill sound.unclosed idle, callersStill idle, sound.counted]
  | true =>
    cases t with
    | late i => exact (worked (.workerTimeout i) rfl).trans sound.counted
    | route i => exact (worked (.workerStep i) rfl).trans sound.counted
    | read i =>
      change (w.read i).selector.workers.length = (w.read i).callers.length
      unfold World.read
      split
      · split
        · exact sound.counted
        · dsimp only [World.act]
          rw [worked _ rfl, List.length_set]
          exact sound.counted
      · exact sound.counted
    | arrive call peer stream =>
      simp only [World.turn]
      split
      · rename_i accepting
        have arrivals := congrArg List.length (State.arrivalsApply w.selector (.accepted call ⟨w.callers.length, peer⟩))
        have joins : w.selector.joins (.accepted call ⟨w.callers.length, peer⟩) =
            [w.selector.newWorker call ⟨w.callers.length, peer⟩] := if_pos accepting
        rw [joins] at arrivals
        simp only [List.length_map, List.length_append, List.map_cons, List.length_cons, List.map_nil,
          List.length_nil] at arrivals
        simp only [World.act, List.length_append, List.length_cons, List.length_nil, arrivals, sound.counted]
      · exact sound.counted
    | serve | serveStep | hiccup | listen | accept | take | ended | join | advance => cases idle

theorem sparedTurn {g : Gateway} {w : World} (sound : Sound g w) (t : Turn) :
    State.Spared w.selector (w.turn t).selector := by
  rcases turnActs w t with same | ⟨e, acts, same⟩
  · rw [same]
    exact ⟨sound.unclosed, rfl, rfl, Nat.le_refl _⟩
  · rw [same]
    exact State.sparedApply sound.unclosed acts.spares

theorem soundTurn {g : Gateway} {w : World} (sound : Sound g w) (t : Turn) : Sound g (w.turn t) := by
  have spared := sparedTurn sound t
  have kept : State.Kept w.selector (w.turn t).selector := by
    rcases turnActs w t with same | ⟨e, acts, same⟩
    · rw [same]
      exact State.Kept.refl _
    · rw [same]
      exact (State.change w.selector e).kept
  refine ⟨spared.unclosed, spared.setup.trans sound.setup, spared.registry.trans sound.registry, ?_, ?_,
    countedTurn sound t, ?_⟩
  · apply Nat.le_of_not_lt
    intro fewer
    have inside : (w.turn t).selector.listeners.length < w.selector.listeners.length :=
      Nat.lt_of_lt_of_le fewer sound.listeners
    obtain ⟨M, found, _⟩ := kept _ _ (List.getElem?_eq_getElem inside)
    exact Nat.lt_irrefl _ (List.getElem?_eq_some_iff.mp found).1
  · intro i v' found'
    cases found : w.selector.workers[i]? with
    | some v =>
      obtain ⟨stage, next, _⟩ := workerTurn sound t found
      obtain rfl := Option.some.inj (next.symm.trans found')
      exact sound.numbered i v found
    | none =>
      obtain ⟨number, connection, _⟩ := newWorker t found found'
      rw [connection, number, sound.counted]
  · intro l v' loop'
    obtain ⟨v, x, y, loop, _, waiter', turn⟩ := loopBefore sound loop'
    obtain ⟨listener, target, serving, _⟩ := sound.loops l v loop
    obtain ⟨sameListener, sameTarget, sameStage⟩ := turn.frame
    exact ⟨sameListener.trans listener, by rw [sameTarget, target], sameStage.trans serving, y, waiter'⟩

theorem soundAfter {g : Gateway} {w : World} (sound : Sound g w) (turns : Nat → Turn) (n : Nat) :
    Sound g (w.after turns n) :=
  keptLater (p := Sound g) (fun n before => soundTurn before (turns n)) (Nat.zero_le n) sound

end SharedPort.Gateway
