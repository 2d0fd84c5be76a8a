import Mathlib.Data.List.Induction
import SharedPort.Proofs.Selector.Order

/-! Routing over whole runs. A worker's stage is an account of what happened to its connection: which bytes were read,
to which listener the registry led at that moment, and whether the queue took it. -/
namespace SharedPort.Selector.State
open SharedPort.Stream (Attempt Replay)

def Leads (s : State) (p : Bytes) (l : Nat) : Prop := s.registry.Leads s.setup.rule s.setup.headerSize p l

/- At the moment of its lookup the worker had read `p` and nothing else, and the registry led `p` to `l`. -/
def LedTo (s₀ : State) (events : List Event) (i : Nat) (p : Bytes) (l : Nat) : Prop :=
  ∃ before after w, events = before ++ .workerStep i :: after ∧ given i s₀ before = p ∧
    (s₀.run before).workers[i]? = some w ∧ w.stage = .peeked p ∧ (s₀.run before).Leads p l

theorem LedTo.later {s₀ : State} {events : List Event} {i : Nat} {p : Bytes} {l : Nat}
    (led : LedTo s₀ events i p l) (e : Event) : LedTo s₀ (events ++ [e]) i p l := by
  obtain ⟨before, after, w, rfl, lookup⟩ := led
  exact ⟨before, after ++ [e], w, by simp, lookup⟩

def Account (s₀ : State) (events : List Event) (i : Nat) : WorkerStage → Prop
  | .peeking missing got =>
      given i s₀ events = got ∧ got.length + missing = s₀.setup.headerSize ∧ 0 < missing
  | .peeked header => given i s₀ events = header ∧ header.length = s₀.setup.headerSize
  | .found header l =>
      given i s₀ events = header ∧ header.length = s₀.setup.headerSize ∧ LedTo s₀ events i header l
  | .ringing l | .settled (.queued l) | .settled (.rejected l _) =>
      (given i s₀ events).length = s₀.setup.headerSize ∧ LedTo s₀ events i (given i s₀ events) l
  | .settled .unroutable => (given i s₀ events).length = s₀.setup.headerSize
  | .settled (.peekFailed _) | .settled .aborted => (given i s₀ events).length < s₀.setup.headerSize

theorem LedTo.listener {s₀ : State} {events : List Event} {i : Nat} {p : Bytes} {l : Nat} (order : InOrder s₀)
    (led : LedTo s₀ events i p l) : ∃ L, (s₀.run events).listeners[l]? = some L := by
  obtain ⟨before, after, w, rfl, _, _, _, leads⟩ := led
  have then_ := inOrderRun order before
  have present : ∃ K, (s₀.run before).listeners[l]? = some K := by
    rcases Registry.leadsListener leads with ⟨key, member⟩ | unmatched
    · obtain ⟨K, found, _⟩ := then_.keyed _ member
      exact ⟨K, found⟩
    · obtain ⟨K, found, _⟩ := then_.unkeyed l unmatched
      exact ⟨K, found⟩
  obtain ⟨K, found⟩ := present
  obtain ⟨L, still, _⟩ := keptRun (s₀.run before) (.workerStep i :: after) l K found
  exact ⟨L, by rw [runAppend, still]⟩

theorem givenWorkerStep (i j : Nat) (s : State) (events : List Event) :
    given i s (events ++ [.workerStep j]) = given i s events := by
  rw [givenSnoc]
  exact List.append_nil _

theorem accountMove {s₀ t : State} {events : List Event} {e : Event} {i : Nat} {w : Worker} {next : WorkerStage}
    (order : InOrder s₀) (found : (s₀.run events).workers[i]? = some w) (account : Account s₀ events i w.stage)
    (move : WorkerMove (s₀.run events) t i e w.stage next) : Account s₀ (events ++ [e]) i next := by
  have now := givenSnoc i s₀ events e
  have led : ∀ {p l}, LedTo s₀ events i p l → LedTo s₀ (events ++ [e]) i p l := fun h => h.later e
  generalize was : w.stage = stage at account move
  cases move with
  | rest silent =>
    rw [silent, List.append_nil] at now
    unfold Account at account ⊢
    rw [now]
    split at account
    · exact account
    · exact account
    · exact ⟨account.1, account.2.1, led account.2.2⟩
    · exact ⟨account.1, led account.2⟩
    · exact ⟨account.1, led account.2⟩
    · exact ⟨account.1, led account.2⟩
    · exact account
    · exact account
    · exact account
  | fed taken short =>
    obtain ⟨read, whole, missing⟩ := account
    refine ⟨by rw [now, taken, read], ?_, by omega⟩
    rw [List.length_append]
    omega
  | filled taken whole =>
    obtain ⟨read, sum, _⟩ := account
    refine ⟨by rw [now, taken, read], ?_⟩
    rw [List.length_append, whole, sum]
  | lost silent =>
    obtain ⟨read, sum, _⟩ := account
    change (given i s₀ (events ++ [e])).length < _
    rw [now, silent, List.append_nil, read]
    omega
  | aborted silent =>
    obtain ⟨read, sum, _⟩ := account
    change (given i s₀ (events ++ [e])).length < _
    rw [now, silent, List.append_nil, read]
    omega
  | routed event route =>
    obtain ⟨read, size⟩ := account
    subst e
    exact ⟨by rw [givenWorkerStep, read], size, events, [], w, rfl, read, found, was, Registry.routeLeads.mp route⟩
  | astray event =>
    obtain ⟨read, size⟩ := account
    subst e
    change (given i s₀ (events ++ [.workerStep i])).length = _
    rw [givenWorkerStep, read, size]
  | pushed event =>
    obtain ⟨read, size, way⟩ := account
    subst e
    rw [← read] at size way
    exact ⟨by rw [givenWorkerStep, size], by rw [givenWorkerStep]; exact led way⟩
  | refused event =>
    obtain ⟨read, size, way⟩ := account
    subst e
    rw [← read] at size way
    exact ⟨by rw [givenWorkerStep, size], by rw [givenWorkerStep]; exact led way⟩
  | vanished _ missing =>
    obtain ⟨L, present⟩ := account.2.2.listener order
    rw [missing] at present
    cases present
  | rung event =>
    subst e
    exact ⟨by rw [givenWorkerStep]; exact account.1, by rw [givenWorkerStep]; exact led account.2⟩

theorem givenBeforeJoining {s₀ : State} (i : Nat) (events : List Event) (absent : (s₀.run events).workers[i]? = none) :
    given i s₀ events = [] := by
  induction events using List.reverseRecOn with
  | nil => rfl
  | append_singleton events e ih =>
    rw [runSnoc] at absent
    have before : (s₀.run events).workers[i]? = none := by
      cases present : (s₀.run events).workers[i]? with
      | none => rfl
      | some w =>
        obtain ⟨stage, next, _⟩ := workerMoves e present
        rw [absent] at next
        cases next
    rw [givenSnoc, ih before, List.nil_append]
    exact chunkAbsent before e

theorem accountRun {setup : Setup} {s₀ : State} (made : create setup = .ok s₀) (events : List Event) {i : Nat}
    {w : Worker} (found : (s₀.run events).workers[i]? = some w) : Account s₀ events i w.stage := by
  induction events using List.reverseRecOn generalizing w with
  | nil =>
    obtain ⟨rfl, _⟩ := created made
    cases found
  | append_singleton events e ih =>
    rw [runSnoc] at found
    cases before : (s₀.run events).workers[i]? with
    | some v =>
      obtain ⟨stage, next, move⟩ := workerMoves e before
      rw [found] at next
      cases Option.some.inj next
      exact accountMove (inOrderCreated made) before (ih before) move
    | none =>
      rw [workersNew e before] at found
      rw [joinsPeeking (List.mem_of_getElem? found)]
      have silent : given i s₀ (events ++ [e]) = [] := by
        rw [givenSnoc, givenBeforeJoining i events before, chunkAbsent before e, List.nil_append]
      have positive : 0 < s₀.setup.headerSize := by
        obtain ⟨rfl, positive, _⟩ := created made
        exact positive
      rw [setupRun]
      exact ⟨silent, Nat.zero_add _, positive⟩

def Enters (s : State) (e : Event) (i : Nat) (p : Bytes) (l : Nat) : Prop :=
  e = .workerStep i ∧ ∃ w, s.workers[i]? = some w ∧
    (s.apply e).waiting l = s.waiting l ++ [⟨.ofHeader w.arrival.connection p, w.arrival.peer⟩]

def Dropped (s : State) (i : Nat) : Prop :=
  ∃ w fate, s.workers[i]? = some w ∧ w.stage = .settled fate ∧ ∀ l, fate ≠ .queued l

theorem appendedEq {α : Type} {xs : List α} {x y : α} (h : xs ++ [x] = xs ++ [y]) : x = y := by
  simpa using h

theorem growsOrEnters (s : State) (e : Event) (l : Nat) :
    (s.apply e).waiting l <:+ s.waiting l ∨ ∃ i p, Enters s e i p l := by
  cases queueMoves s e with
  | still same => exact .inl (same l ▸ List.suffix_refl _)
  | @popped call k routed rest _ _ waits shrunk =>
    left
    rw [shrunk l]
    split
    · subst l
      rw [waits]
      exact List.suffix_cons routed rest
    · exact List.suffix_refl _
  | @pushed i k w header L event worker _ _ _ _ grown =>
    by_cases same : l = k
    · exact .inr ⟨i, header, event, w, worker, by rw [grown l, if_pos same, same]⟩
    · have still : (s.apply e).waiting l = s.waiting l := by rw [grown l, if_neg same]
      exact .inl (still ▸ List.suffix_refl _)

structure Entry (s : State) (e : Event) (i : Nat) (p : Bytes) (l : Nat) : Prop where
  stage : ∃ w, s.workers[i]? = some w ∧ w.stage = .found p l
  room : ∃ L, s.listeners[l]? = some L ∧ L.queue.closed = false ∧ L.queue.isFull L.capacity = false
  alone : ∀ k, k ≠ l → (s.apply e).waiting k = s.waiting k
  next : ∃ w, (s.apply e).workers[i]? = some w ∧ w.stage = .ringing l

theorem entersEntry {s : State} {e : Event} {i : Nat} {p : Bytes} {l : Nat} (enters : Enters s e i p l) :
    Entry s e i p l := by
  obtain ⟨rfl, w, found, longer⟩ := enters
  have grown : (s.apply (.workerStep i)).waiting l ≠ s.waiting l := by
    intro same
    have sizes := congrArg List.length (same.symm.trans longer)
    simp at sizes
  cases queueMoves s (.workerStep i) with
  | still same => exact (grown (same l)).elim
  | popped event => cases event
  | @pushed j k v header L event worker stage target isOpen room pushed next =>
    cases event
    obtain rfl := Option.some.inj (found.symm.trans worker)
    have here : l = k := Decidable.byContradiction fun other => grown (by rw [pushed l, if_neg other])
    subst k
    have both := (pushed l).symm.trans longer
    rw [if_pos rfl] at both
    obtain rfl : header = p := congrArg (fun routed => routed.stream.header) (appendedEq both)
    exact ⟨⟨w, worker, stage⟩, ⟨L, target, isOpen, room⟩,
      fun other different => by rw [pushed other, if_neg different], ⟨_, next, rfl⟩⟩

def isPast : WorkerStage → Bool
  | .ringing _ | .settled _ => true
  | _ => false

theorem pastMove {s t : State} {i : Nat} {e : Event} {stage next : WorkerStage} (past : isPast stage = true)
    (move : WorkerMove s t i e stage next) : isPast next = true := by
  cases move with
  | rest => exact past
  | fed | filled | lost | aborted | routed | astray | pushed | refused | vanished => cases past
  | rung => rfl

theorem pastRun {s : State} {i : Nat} {w : Worker} (found : s.workers[i]? = some w) (past : isPast w.stage = true)
    (events : List Event) : ∃ v, (s.run events).workers[i]? = some v ∧ isPast v.stage = true := by
  induction events generalizing s w with
  | nil => exact ⟨w, found, past⟩
  | cons e rest ih =>
    obtain ⟨stage, next, move⟩ := workerMoves e found
    exact ih next (pastMove past move)

theorem pastNeverEnters {s : State} {i : Nat} {w : Worker} (found : s.workers[i]? = some w)
    (past : isPast w.stage = true) (e : Event) (p : Bytes) (l : Nat) : ¬ Enters s e i p l := by
  intro enters
  obtain ⟨v, again, stage⟩ := (entersEntry enters).stage
  obtain rfl := Option.some.inj (found.symm.trans again)
  rw [stage] at past
  cases past

theorem settledRun {s : State} {i : Nat} {w : Worker} {fate : Fate} (found : s.workers[i]? = some w)
    (stage : w.stage = .settled fate) (events : List Event) : (s.run events).workers[i]? = some w := by
  induction events generalizing s with
  | nil => exact found
  | cons e rest ih =>
    obtain ⟨next, now, move⟩ := workerMoves e found
    obtain ⟨arrival, owner, deadline, _⟩ := w
    cases stage
    cases move with
    | rest => exact ih now

theorem droppedForEver {s : State} {i : Nat} (dropped : Dropped s i) (more : List Event) :
    Dropped (s.run more) i ∧ ∀ e p l, ¬ Enters (s.run more) e i p l := by
  obtain ⟨w, fate, found, stage, lost⟩ := dropped
  have still := settledRun found stage more
  exact ⟨⟨w, fate, still, stage, lost⟩, pastNeverEnters still (by rw [stage]; rfl)⟩

theorem lookupLed {s : State} {i l : Nat} {w : Worker} {p : Bytes} (found : s.workers[i]? = some w)
    (stage : w.stage = .peeked p) (leads : s.Leads p l) :
    (s.apply (.workerStep i)).workers[i]? = some { w with stage := .found p l } := by
  have route : s.registry.route s.setup.rule s.setup.headerSize p = some l := Registry.routeLeads.mpr leads
  obtain ⟨arrival, owner, deadline, _⟩ := w
  cases stage
  simp only [apply, workerStep, found, route]
  rw [workersSetWorker found, if_pos rfl]

theorem lookupLost {s : State} {i : Nat} {w : Worker} {p : Bytes} (found : s.workers[i]? = some w)
    (stage : w.stage = .peeked p) (leads : ∀ l, ¬ s.Leads p l) : Dropped (s.apply (.workerStep i)) i := by
  have route : s.registry.route s.setup.rule s.setup.headerSize p = none := by
    cases h : s.registry.route s.setup.rule s.setup.headerSize p with
    | none => rfl
    | some l => exact (leads l (Registry.routeLeads.mp h)).elim
  obtain ⟨arrival, owner, deadline, _⟩ := w
  cases stage
  simp only [apply, workerStep, found, route]
  exact ⟨_, .unroutable, (workersSetWorker found _ i).trans (if_pos rfl), rfl, fun _ h => by cases h⟩

theorem deliveryRefused {s : State} {i l : Nat} {w : Worker} {p : Bytes} {L : Listener Routed}
    (found : s.workers[i]? = some w) (stage : w.stage = .found p l) (target : s.listeners[l]? = some L)
    (shut : L.queue.closed = true ∨ L.queue.isFull L.capacity = true) : Dropped (s.apply (.workerStep i)) i := by
  obtain ⟨arrival, owner, deadline, _⟩ := w
  cases stage
  simp only [apply, workerStep, found, deliver, target, Listener.Queue.push]
  by_cases closed : L.queue.closed = true
  · rw [if_pos closed]
    exact ⟨_, _, (workersSetWorker found _ i).trans (if_pos rfl), rfl, fun _ h => by cases h⟩
  · rw [if_neg closed, if_pos (shut.resolve_left closed)]
    exact ⟨_, _, (workersSetWorker found _ i).trans (if_pos rfl), rfl, fun _ h => by cases h⟩

theorem deliveryTaken {s : State} {i l : Nat} {w : Worker} {p : Bytes} {L : Listener Routed}
    (found : s.workers[i]? = some w) (stage : w.stage = .found p l) (target : s.listeners[l]? = some L)
    (isOpen : L.queue.closed = false) (room : L.queue.isFull L.capacity = false) :
    Enters s (.workerStep i) i p l := by
  refine ⟨rfl, w, found, ?_⟩
  obtain ⟨arrival, owner, deadline, _⟩ := w
  cases stage
  simp only [apply, workerStep, found, deliver, target, Listener.Queue.push, isOpen, room, Bool.false_eq_true,
    if_false]
  rw [waitingOfListener target]
  exact (waitingSetQueue target _ l).trans (if_pos rfl)

/- A connection ends, fails or runs out of time while its prefix is read. An interrupted read is made again. -/
inductive Breaks (s : State) (i : Nat) : Event → Prop where
  | ended : Breaks s i (.workerRead i (.done []))
  | failed {cause} (lasting : cause.kind ≠ .interrupted) : Breaks s i (.workerRead i (.failed cause))
  | late (overdue : s.isOverdue i = true) : Breaks s i (.workerTimeout i)

theorem brokenDropped {s : State} {i missing : Nat} {w : Worker} {got : Bytes} {e : Event}
    (found : s.workers[i]? = some w) (stage : w.stage = .peeking missing got) (breaks : Breaks s i e) :
    Dropped (s.apply e) i := by
  obtain ⟨arrival, owner, deadline, _⟩ := w
  cases stage
  cases breaks with
  | ended =>
    simp only [apply, workerRead, found, Attempt.fits, List.length_nil, Nat.zero_le, decide_true, if_true,
      Stream.Gather.feed]
    exact ⟨_, _, (workersSetWorker found _ i).trans (if_pos rfl), rfl, fun _ h => by cases h⟩
  | failed lasting =>
    simp only [apply, workerRead, found, Attempt.fits, if_true, Stream.Gather.feed, if_neg lasting]
    exact ⟨_, _, (workersSetWorker found _ i).trans (if_pos rfl), rfl, fun _ h => by cases h⟩
  | late overdue =>
    simp only [apply, workerTimeout, overdue, if_true]
    exact ⟨_, _, (workersSetWorker found _ i).trans (if_pos rfl), rfl, fun _ h => by cases h⟩

/- The law of routing for a run from `s₀`: who enters a queue, which one and how often, and who does not. -/
structure RoutingLaw (s₀ : State) (events : List Event) : Prop where
  order : InOrder (s₀.run events)
  growth : ∀ e l, ((s₀.run events).apply e).waiting l <:+ (s₀.run events).waiting l ∨
    ∃ i p, Enters (s₀.run events) e i p l
  earned : ∀ e i p l, Enters (s₀.run events) e i p l →
    given i s₀ events = p ∧ p.length = s₀.setup.headerSize ∧ LedTo s₀ events i p l ∧
    Entry (s₀.run events) e i p l
  once : ∀ e i p l, Enters (s₀.run events) e i p l →
    ∀ more e' p' l', ¬ Enters ((s₀.run events).run (e :: more)) e' i p' l'
  looked : ∀ i w p, (s₀.run events).workers[i]? = some w → w.stage = .peeked p →
    given i s₀ events = p ∧ p.length = s₀.setup.headerSize ∧
    (∀ l, (s₀.run events).Leads p l →
      ((s₀.run events).apply (.workerStep i)).workers[i]? = some { w with stage := .found p l }) ∧
    ((∀ l, ¬ (s₀.run events).Leads p l) → Dropped ((s₀.run events).apply (.workerStep i)) i)
  delivered : ∀ i w p l, (s₀.run events).workers[i]? = some w → w.stage = .found p l →
    LedTo s₀ events i p l ∧ ∃ L, (s₀.run events).listeners[l]? = some L ∧
    (L.queue.closed = true ∨ L.queue.isFull L.capacity = true →
      Dropped ((s₀.run events).apply (.workerStep i)) i) ∧
    (L.queue.closed = false ∧ L.queue.isFull L.capacity = false →
      Enters (s₀.run events) (.workerStep i) i p l)
  broken : ∀ i w missing got e, (s₀.run events).workers[i]? = some w → w.stage = .peeking missing got →
    Breaks (s₀.run events) i e →
    (given i s₀ events).length < s₀.setup.headerSize ∧ Dropped ((s₀.run events).apply e) i
  gone : ∀ i, Dropped (s₀.run events) i → ∀ more,
    Dropped ((s₀.run events).run more) i ∧ ∀ e p l, ¬ Enters ((s₀.run events).run more) e i p l

theorem entersOnlyWhereLed {setup : Setup} {s₀ : State} (made : create setup = .ok s₀) (events : List Event) :
    RoutingLaw s₀ events where
  order := inOrderRun (inOrderCreated made) events
  growth := growsOrEnters (s₀.run events)
  earned := by
    intro e i p l enters
    have entry := entersEntry enters
    obtain ⟨w, found, stage⟩ := entry.stage
    have account := accountRun made events found
    rw [stage] at account
    exact ⟨account.1, account.2.1, account.2.2, entry⟩
  once := by
    intro e i p l enters more e' p' l'
    obtain ⟨w, found, stage⟩ := (entersEntry enters).next
    obtain ⟨v, still, past⟩ := pastRun found (by rw [stage]; rfl) more
    exact pastNeverEnters still past e' p' l'
  looked := by
    intro i w p found stage
    have account := accountRun made events found
    rw [stage] at account
    exact ⟨account.1, account.2, fun l leads => lookupLed found stage leads, lookupLost found stage⟩
  delivered := by
    intro i w p l found stage
    have account := accountRun made events found
    rw [stage] at account
    obtain ⟨L, target⟩ := account.2.2.listener (inOrderCreated made)
    exact ⟨account.2.2, L, target, deliveryRefused found stage target,
      fun free => deliveryTaken found stage target free.1 free.2⟩
  broken := by
    intro i w missing got e found stage breaks
    have account := accountRun made events found
    rw [stage] at account
    obtain ⟨read, sum, positive⟩ := account
    exact ⟨by rw [read]; omega, brokenDropped found stage breaks⟩
  gone := fun i dropped more => droppedForEver dropped more

def pairSetup : Setup := ⟨MatchMode.leading.rule, 2, {}, ⟨.v4 127 0 0 1, 4000⟩⟩

def pairRun : List Event :=
  [.register [65], .registerDefault, .beginServe, .serveStep 0, .serveStep 0, .serveStep 0,
    .accepted 0 ⟨7, ⟨.v4 10 0 0 1, 5000⟩⟩, .workerRead 0 (.done [65]), .workerRead 0 (.done [66]), .workerStep 0]

theorem pairEntersWhereLed :
    create pairSetup = .ok { setup := pairSetup } ∧ RoutingLaw { setup := pairSetup } pairRun ∧
    Enters (run { setup := pairSetup } pairRun) (.workerStep 0) 0 [65, 66] 0 := by
  have made : create pairSetup = .ok { setup := pairSetup } := rfl
  exact ⟨made, entersOnlyWhereLed made pairRun, rfl, _, rfl, rfl⟩

end SharedPort.Selector.State
