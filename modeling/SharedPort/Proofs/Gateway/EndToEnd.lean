import SharedPort.Proofs.Forward.Copy
import SharedPort.Proofs.Gateway.Handover

/-! From a client to the backend of its route and back. Whatever the order of the turns, a connection is forwarded to no
target but the one the configuration names for its first bytes, at most once, and the copy is exact. Under fair turns it
gets there, or is dropped if there is no target. -/
namespace SharedPort.Gateway
open SharedPort.Stream (Duplex Replay Scripted Steady)
open SharedPort.Selector (State Routed Worker)
open SharedPort.Forward (Fresh Ended)

/- What a forward is given: the stream as its worker left it, behind the prefix. -/
def Caller.replayed (caller : Caller) (routed : Routed) : Replay Scripted := { routed.stream with inner := caller.now }

def World.Contacted (w : World) (i : Nat) (target : String) : Prop :=
  ∃ l j routed, w.contact l j = some (target, routed) ∧ routed.stream.inner = i

def World.Dropped (w : World) (i : Nat) : Prop := ∃ arrival, w.selector.Holds arrival (.dropped i)

/- The connection is where the configuration wants it: with its target alone, or dropped. -/
def World.Arrived (c : Config) (w : World) (i : Nat) (bytes : Bytes) : Prop :=
  match c.destination bytes with
  | some target => w.Contacted i target
  | none => w.Dropped i ∧ ∀ target, ¬ w.Contacted i target

/- What a run does for every connection that is fresh when it comes, whatever the chunks of both sides and the
size of the buffer. -/
structure Serves (c : Config) (g : Gateway) (turns : Nat → Turn) : Prop where
  once : ∀ {m n l l' j j' target target' routed routed'},
    ((World.start g).after turns m).contact l j = some (target, routed) →
    ((World.start g).after turns n).contact l' j' = some (target', routed') →
    routed.stream.inner = routed'.stream.inner → l = l' ∧ j = j' ∧ target = target' ∧ routed = routed'
  chosen : ∀ {n i caller target}, ((World.start g).after turns n).callers[i]? = some caller → Fresh caller.start →
    ((World.start g).after turns n).Contacted i target → c.destination caller.whole = some target
  copied : ∀ {n caller l j target routed}, ((World.start g).after turns n).contact l j = some (target, routed) →
    ((World.start g).after turns n).callers[routed.stream.inner]? = some caller → Fresh caller.start →
    ∀ {τ : Type} [Duplex τ] [Steady τ] (dial : String → Forward.Dialled τ) (backend : τ),
      dial target = .connected backend → Fresh backend →
      ∃ enough, ∀ fuel, enough ≤ fuel → ∃ deadline, ∀ limit, deadline < limit → ∃ x,
        Forward.connection dial limit fuel g.options target (caller.replayed routed) =
          .exchanged x (.finished caller.whole.length (Steady.face backend).rest.length) ∧
        Ended x.target caller.whole ∧ Ended x.client (Steady.face backend).rest
  arrives : Fair turns → ∀ {n i caller}, ((World.start g).after turns n).callers[i]? = some caller →
    Fresh caller.start → (∀ m, Unhindered ((World.start g).after turns m) i) →
    ∃ m, ∀ k, m ≤ k → World.Arrived c ((World.start g).after turns k) i caller.whole

variable {c : Config} {g : Gateway} {w : World} {turns : Nat → Turn}

theorem contactLater {l j m n : Nat} {target : String} {routed : Routed} (sound : ∀ n, Sound g (w.after turns n))
    (later : m ≤ n) (contact : (w.after turns m).contact l j = some (target, routed)) :
    (w.after turns n).contact l j = some (target, routed) :=
  keptLater (p := fun w => w.contact l j = some (target, routed)) (fun n => contactTurn (sound n) (turns n)) later
    contact

theorem droppedTurn {i : Nat} (dropped : w.Dropped i) (t : Turn) : (w.turn t).Dropped i := by
  obtain ⟨arrival, held⟩ := dropped
  rcases turnActs w t with same | ⟨e, _, same⟩
  · exact ⟨arrival, same ▸ held⟩
  · exact ⟨arrival, same ▸ State.holdsFinal rfl held [e]⟩

theorem knownLater {i m n : Nat} {s now : Scripted} {v : Worker} (sound : ∀ n, Sound g (w.after turns n))
    (later : m ≤ n) (known : Known (w.after turns m) i s v now) : ∃ v now, Known (w.after turns n) i s v now := by
  refine keptLater (p := fun w => ∃ v now, Known w i s v now) (fun n before => ?_) later ⟨v, now, known⟩
  obtain ⟨_, _, before⟩ := before
  obtain ⟨_, _, next, _⟩ := knownTurn (sound n) before (turns n)
  exact ⟨_, _, next⟩

theorem loopsAfter (w : World) (turns : Nat → Turn) (n : Nat) : (w.after turns n).loops.length = w.loops.length :=
  keptLater (p := fun later => later.loops.length = w.loops.length) (fun _ before => (loopsLength _ _).trans before)
    (Nat.zero_le n) rfl

theorem destinationOfPrefix (built : Built c g) {caller : Caller} {header : Bytes}
    (prefixed : Prefixed g caller header) :
    (route g header).map (fun l => (g.routes[l]?).map Route.target) = (c.destination caller.whole).map some := by
  have long : ¬ caller.whole.length < c.headerSize.toNat := Nat.not_lt.mpr (built.size ▸ prefixed.long)
  have first : caller.whole.take c.headerSize.toNat = header := built.size ▸ prefixed.header.symm
  rw [Config.destination, if_neg long, first]
  exact built.leads header

theorem contactCarries {l j : Nat} {target : String} {routed : Routed} (orderly : Orderly g w)
    (contact : w.contact l j = some (target, routed)) :
    Carried g w l routed ∧ (g.routes[l]?).map Route.target = some target := by
  obtain ⟨v, loop, rfl, found⟩ := contactFound contact
  exact ⟨orderly.carried.forwarded l v loop routed (List.mem_of_getElem? found), (orderly.sound.loops l v loop).target⟩

theorem contactChosen (built : Built c g) (orderly : Orderly g w) {i : Nat} {caller : Caller} {target : String}
    (found : w.callers[i]? = some caller) (lasts : caller.start.reads.Lasts) (contacted : w.Contacted i target) :
    c.destination caller.whole = some target := by
  obtain ⟨l, j, routed, contact, rfl⟩ := contacted
  obtain ⟨carried, isTarget⟩ := contactCarries orderly contact
  obtain ⟨prefixed, led⟩ := carried.told caller found lasts
  have way := destinationOfPrefix built prefixed
  rw [led, Option.map_some, isTarget] at way
  obtain ⟨other, isOther, same⟩ := Option.map_eq_some_iff.mp way.symm
  rw [isOther, same]

theorem replayedWhole {l j : Nat} {target : String} {routed : Routed} {caller : Caller}
    (orderly : Orderly g w) (contact : w.contact l j = some (target, routed))
    (found : w.callers[routed.stream.inner]? = some caller) (fresh : Fresh caller.start) :
    Fresh (caller.replayed routed) ∧ (Steady.face (caller.replayed routed)).rest = caller.whole := by
  obtain ⟨⟨⟨v, worker, _⟩, stream, told⟩, _⟩ := contactCarries orderly contact
  have lasts := fresh.ok.1
  obtain ⟨still, sink, _⟩ := orderly.tended _ v caller worker found lasts
  obtain ⟨prefixed, _⟩ := told caller found lasts
  have pending : routed.stream.pending = routed.stream.header := congrArg Replay.pending stream
  refine ⟨⟨⟨still, ?_⟩, ?_, ?_⟩, ?_⟩
  · rw [Caller.replayed, sink]
    exact fresh.ok.2
  · change caller.now.sink.written = []
    rw [sink]
    exact fresh.written
  · change _ ∉ caller.now.sink.calls
    rw [sink]
    exact fresh.isOpen
  · change routed.stream.pending ++ caller.now.reads.whole = caller.whole
    rw [pending, prefixed.order]

theorem beginning {n i : Nat} {caller : Caller} (sound : ∀ n, Sound g ((World.start g).after turns n))
    (found : ((World.start g).after turns n).callers[i]? = some caller) :
    ∃ m v now missing got, Known ((World.start g).after turns m) i caller.start v now ∧
      v.stage = .peeking missing got := by
  induction n generalizing caller with
  | zero => cases found
  | succ n ih =>
    have inside := (List.getElem?_eq_some_iff.mp found).1
    rw [← (sound (n + 1)).counted] at inside
    have worker' := List.getElem?_eq_getElem inside
    cases worker : ((World.start g).after turns n).selector.workers[i]? with
    | some v =>
      obtain ⟨before, present⟩ := callerOf (sound n) worker
      obtain ⟨stage, now, known, _⟩ := knownTurn (sound n) ⟨worker, present⟩ (turns n)
      cases found.symm.trans known.caller
      exact @ih before present
    | none =>
      obtain ⟨number, _, stage, stream, callers⟩ := newWorker (turns n) worker worker'
      have last : ((World.start g).after turns (n + 1)).callers[i]? = some ⟨stream, stream⟩ := by
        rw [number, (sound n).counted]
        exact (congrArg (·[_]?) callers).trans List.getElem?_concat_length
      cases found.symm.trans last
      exact ⟨n + 1, _, stream, _, _, ⟨worker', last⟩, stage⟩

theorem dropped {i : Nat} {s now : Scripted} {v : Worker} {fate : Selector.Fate} (known : Known w i s v now)
    (stage : v.stage = .settled fate) (unsent : ∀ l, fate ≠ .queued l) : w.Dropped i := by
  refine ⟨v.arrival, v, known.worker, rfl, ?_⟩
  rw [stage]
  cases fate with
  | queued l => exact (unsent l rfl).elim
  | peekFailed | unroutable | rejected | aborted => rfl

theorem routedArrives (built : Built c g) {i n : Nat} {s now : Scripted} {v : Worker}
    {header : Bytes} (orderly : Orderly g w) (served : w.loops.length = g.routes.length) (fair : Fair turns)
    (lasts : s.reads.Lasts) (unhindered : ∀ m, Unhindered (w.after turns m) i)
    (known : Known (w.after turns n) i s v now) (stage : v.stage = .peeked header) :
    ∃ m, (∃ target, (w.after turns m).Contacted i target) ∨
      (w.after turns m).Dropped i ∧ c.destination s.reads.whole = none := by
  have always := orderlyAfter built.ready orderly turns
  obtain ⟨m, _, v, now, known, sent⟩ := routesOn built.ready orderly fair unhindered known stage
  rcases sent with ⟨l, routed, member, rfl⟩ | stage
  · obtain ⟨_, led⟩ := ((always m).carried.queued l routed member).told _ known.caller lasts
    have inside : l < (w.after turns m).loops.length := by
      rw [loopsAfter, served]
      exact built.ready.registered _ _ led
    obtain ⟨m', _, v', loop, forwarded⟩ := handsOver built.ready orderly fair inside member
    obtain ⟨j, place⟩ := List.getElem?_of_mem forwarded
    exact ⟨m', .inl ⟨_, l, j, routed, contactMade loop place, rfl⟩⟩
  · obtain ⟨_, _, told⟩ := (always m).tended i v _ known.worker known.caller lasts
    rw [stage] at told
    obtain ⟨header, prefixed, astray⟩ := told
    have way := destinationOfPrefix built prefixed
    rw [astray, Option.map_none] at way
    exact ⟨m, .inr ⟨dropped known stage nofun, Option.map_eq_none_iff.mp way.symm⟩⟩

theorem someArrival (built : Built c g) {i n : Nat} {caller : Caller} (fair : Fair turns)
    (found : ((World.start g).after turns n).callers[i]? = some caller) (lasts : caller.start.reads.Lasts)
    (unhindered : ∀ m, Unhindered ((World.start g).after turns m) i) :
    ∃ m, (∃ target, ((World.start g).after turns m).Contacted i target) ∨
      ((World.start g).after turns m).Dropped i ∧ c.destination caller.whole = none := by
  have always := orderlyAfter built.ready built.start turns
  obtain ⟨m, v, now, missing, got, known, stage⟩ := beginning (fun n => (always n).sound) found
  obtain ⟨m', _, v', now', known', read⟩ := readsOn built.ready built.start fair lasts unhindered known stage
  rcases read with ⟨header, peeked⟩ | ⟨cause, failed⟩
  · have served : (World.start g).loops.length = g.routes.length := List.length_map ..
    exact routedArrives built built.start served fair lasts unhindered known' peeked
  · obtain ⟨_, _, told⟩ := (always m').tended i v' _ known'.worker known'.caller lasts
    rw [failed] at told
    have short : caller.whole.length < c.headerSize.toNat := by
      rcases told with ⟨limit, timeout⟩ | short
      · cases timeout
      · exact built.size ▸ short
    exact ⟨m', .inr ⟨dropped known' failed nofun, if_pos short⟩⟩

theorem arrivesForEver (built : Built c g) {i n : Nat} {caller : Caller} (fair : Fair turns)
    (found : ((World.start g).after turns n).callers[i]? = some caller) (lasts : caller.start.reads.Lasts)
    (unhindered : ∀ m, Unhindered ((World.start g).after turns m) i) :
    ∃ m, ∀ k, m ≤ k → World.Arrived c ((World.start g).after turns k) i caller.whole := by
  have always := orderlyAfter built.ready built.start turns
  have sound := fun n => (always n).sound
  obtain ⟨m, arrival⟩ := someArrival built fair found lasts unhindered
  have inside := (List.getElem?_eq_some_iff.mp found).1
  rw [← (sound n).counted] at inside
  refine ⟨max m n, fun k later => ?_⟩
  obtain ⟨_, now, known⟩ := knownLater sound (by omega : n ≤ k) ⟨List.getElem?_eq_getElem inside, found⟩
  have only : ∀ {target}, World.Contacted _ i target → c.destination caller.whole = some target :=
    fun contacted => @contactChosen c g _ built (always k) i ⟨caller.start, now⟩ _ known.caller lasts contacted
  unfold World.Arrived
  rcases arrival with ⟨target, l, j, routed, contact, number⟩ | ⟨gone, nowhere⟩
  · have contacted := contactLater sound (by omega : m ≤ k) contact
    rw [only ⟨l, j, routed, contacted, number⟩]
    exact ⟨l, j, routed, contacted, number⟩
  · rw [nowhere]
    have stays := keptLater (p := (World.Dropped · i)) (fun _ before => droppedTurn before _) (by omega : m ≤ k) gone
    refine ⟨stays, fun target contacted => ?_⟩
    cases nowhere.symm.trans (only contacted)

theorem onceOnly (built : Built c g) (turns : Nat → Turn) {m n l l' j j' : Nat} {target target' : String}
    {routed routed' : Routed} (first : ((World.start g).after turns m).contact l j = some (target, routed))
    (second : ((World.start g).after turns n).contact l' j' = some (target', routed'))
    (same : routed.stream.inner = routed'.stream.inner) : l = l' ∧ j = j' ∧ target = target' ∧ routed = routed' := by
  have always := orderlyAfter built.ready built.start turns
  have sound := fun n => (always n).sound
  have early := contactLater sound (Nat.le_max_left m n) first
  have late := contactLater sound (Nat.le_max_right m n) second
  obtain ⟨_, _, _, balanced, ledgers, _⟩ := always (max m n)
  obtain ⟨rfl, rfl⟩ := contactOnce (sound _) balanced ledgers early late same
  cases early.symm.trans late
  exact ⟨rfl, rfl, rfl, rfl⟩

theorem endToEnd {lookup : Resolver} (valid : c.validate.value = .ok ()) (made : (ofConfig lookup c).value = .ok g)
    (turns : Nat → Turn) : Serves c g turns := by
  have built := builtFrom valid made
  have always := orderlyAfter built.ready built.start turns
  refine ⟨onceOnly built turns, ?_, ?_, ?_⟩
  · intro n i caller target found fresh contacted
    exact contactChosen built (always n) found fresh.ok.1 contacted
  · intro n caller l j target routed contact found fresh τ _ _ dial backend dials willing
    obtain ⟨whole, rest⟩ := replayedWhole (always n) contact found fresh
    rw [← rest]
    exact Forward.connectionCopies g.options target dials whole willing
  · intro fair n i caller found fresh unhindered
    exact arrivesForEver built fair found fresh.ok.1 unhindered

def pairConfig : Config :=
  { headerSize := 2, matchMode := .leading, routes := [⟨"A", "alpha:1"⟩], defaultTarget := some "beta:2" }

def pairGateway : Gateway :=
  assembled ⟨MatchMode.leading.rule, 2, .ofConfig pairConfig, ⟨.v4 0 0 0 0, 7000⟩⟩ (.ofConfig pairConfig)
    pairConfig.routes pairConfig.defaultTarget

def pairClient : Scripted := { reads := [.data [65], .pend, .data [66, 67]] }

def pairOpening : List Turn :=
  [.serve, .serveStep 0, .serveStep 0, .serveStep 0, .arrive 0 ⟨.v4 10 0 0 1, 5000⟩ pairClient, .read 0, .read 0,
    .read 0, .route 0, .route 0, .route 0, .listen 0, .accept 0, .accept 0, .accept 0, .take 0]

theorem settledUnhindered {w : World} {i : Nat} {v : Worker} {fate : Selector.Fate}
    (found : w.selector.workers[i]? = some v) (stage : v.stage = .settled fate) : Unhindered w i := by
  obtain ⟨arrival, owner, deadline, _⟩ := v
  cases stage
  refine ⟨?_, ?_⟩
  · unfold State.isOverdue
    rw [found]
    cases deadline <;> rfl
  · unfold World.hasRoom
    rw [found]

theorem settledLater {i m n : Nat} {v : Worker} {fate : Selector.Fate} (sound : ∀ n, Sound g (w.after turns n))
    (later : m ≤ n) (found : (w.after turns m).selector.workers[i]? = some v) (stage : v.stage = .settled fate) :
    ∃ v, (w.after turns n).selector.workers[i]? = some v ∧ v.stage = .settled fate := by
  refine keptLater (p := fun w => ∃ v, w.selector.workers[i]? = some v ∧ v.stage = .settled fate)
    (fun n before => ?_) later ⟨v, found, stage⟩
  obtain ⟨_, before, stage⟩ := before
  obtain ⟨_, next, turn⟩ := workerTurn (sound n) (turns n) before
  rw [stage] at turn
  cases turn with
  | rest => exact ⟨_, next, rfl⟩

theorem pairServed :
    pairConfig.validate.value = .ok () ∧ (ofConfig localResolver pairConfig).value = .ok pairGateway ∧
      Fair (opened pairOpening) ∧ Fresh pairClient ∧
      (∀ n, Unhindered ((World.start pairGateway).after (opened pairOpening) n) 0) ∧
      ((World.start pairGateway).after (opened pairOpening) 16).contact 0 0 =
        some ("alpha:1", ⟨.ofHeader 0 [65, 66], ⟨.v4 10 0 0 1, 5000⟩⟩) ∧
      Serves pairConfig pairGateway (opened pairOpening) := by
  have valid : pairConfig.validate.value = .ok () := rfl
  have built : (ofConfig localResolver pairConfig).value = .ok pairGateway := rfl
  refine ⟨valid, built, openedFair pairOpening, ?_, fun n => ?_, rfl, endToEnd valid built _⟩
  · exact ⟨⟨⟨by decide, fun cause => by simp [pairClient]⟩, rfl, rfl, nofun⟩, rfl, nofun⟩
  · by_cases early : n < 11
    · revert n
      decide
    · have sound := soundAfter (startSound : Sound pairGateway _) (opened pairOpening)
      have queued : (((World.start pairGateway).after (opened pairOpening) 11).selector.workers[0]?).map Worker.stage =
          some (.settled (.queued 0)) := rfl
      obtain ⟨_, before, settled⟩ := Option.map_eq_some_iff.mp queued
      obtain ⟨_, found, stage⟩ := settledLater sound (by omega : 11 ≤ n) before settled
      exact settledUnhindered found stage

end SharedPort.Gateway
