import SharedPort.Proofs.Selector.Callers
import SharedPort.Proofs.Selector.ListenerMoves

/-! What is being closed. A close of the whole selector may be a call of its own or a part of a serve call. A close of
one listener shuts the queue first and then owes the bell one ring for all. -/
namespace SharedPort.Selector.State
open SharedPort.Listener (Bell)

def Closes (s : State) (stage : CloseStage) : Prop :=
  stage ∈ s.closes ∨ ∃ result, .closing stage result ∈ s.serves

def isShut (s : State) (l : Nat) : Bool := (s.listeners[l]?).any (·.queue.closed)

/- The queue of `l` was shut by somebody who did not ring yet. -/
def RingsAll (s : State) (l : Nat) : Prop :=
  (∃ left, s.Closes (.ringing l left)) ∨ ⟨l, .ringing⟩ ∈ s.listenerCloses

theorem shutKeep {s : State} {i : Nat} {change : Listener Routed → Listener Routed}
    (keeps : ∀ L, s.listeners[i]? = some L → (change L).queue.closed = L.queue.closed) (l : Nat) :
    (s.setListener i change).isShut l = s.isShut l := by
  simp only [isShut, setListener, List.getElem?_modify]
  cases found : s.listeners[l]? with
  | none => simp
  | some L =>
    by_cases same : i = l
    · subst l
      simp [keeps L found]
    · simp [same]

theorem shutSetQueue {s : State} {i : Nat} {L : Listener Routed} (found : s.listeners[i]? = some L)
    {queue : Listener.Queue Routed} (same : queue.closed = L.queue.closed) (l : Nat) :
    (s.setListener i ({ · with queue })).isShut l = s.isShut l := by
  apply shutKeep
  intro K again
  cases Option.some.inj (found.symm.trans again)
  exact same

theorem shutSame {s t : State} (listeners : t.listeners = s.listeners) (l : Nat) : t.isShut l = s.isShut l := by
  simp [isShut, listeners]

theorem shutRingAll (s : State) (i l : Nat) : (s.ringAll i).isShut l = s.isShut l := by
  apply shutKeep
  simp

theorem shutCloseQueue (s : State) (i l : Nat) :
    (s.closeQueue i).2.isShut l = true ↔ s.isShut l = true ∨ l = i ∧ l < s.listeners.length := by
  unfold closeQueue
  cases found : s.listeners[i]? with
  | none =>
    have beyond := List.getElem?_eq_none_iff.mp found
    simp only [iff_self_or, and_imp]
    omega
  | some L =>
    have present := (List.getElem?_eq_some_iff.mp found).1
    simp only [isShut, setListener, List.getElem?_modify]
    by_cases same : i = l
    · subst l
      simp [present, Listener.Queue.close]
    · have other : ¬ l = i := fun h => same h.symm
      cases s.listeners[l]? <;> simp [same, other]

theorem wasOpen (s : State) (i : Nat) :
    (s.closeQueue i).1 = true ↔ i < s.listeners.length ∧ s.isShut i = false := by
  unfold closeQueue isShut
  cases found : s.listeners[i]? with
  | none => simp [List.getElem?_eq_none_iff.mp found]
  | some L => simp [(List.getElem?_eq_some_iff.mp found).1, Listener.Queue.close]

theorem shutAppend (s : State) (registry : Registry) (key : Option Bytes) (l : Nat) :
    { s with registry, listeners := s.listeners ++ [s.newListener key] : State }.isShut l = s.isShut l := by
  simp only [isShut, List.getElem?_append]
  split
  · rfl
  · rename_i beyond
    rw [List.getElem?_eq_none (Nat.le_of_not_lt beyond), List.getElem?_singleton]
    split <;> simp [newListener]

structure Advanced (s t : State) (stage next : CloseStage) : Prop where
  had : s.Closes stage
  has : t.Closes next
  came : ∀ x, t.Closes x → x = next ∨ s.Closes x
  stays : ∀ x, s.Closes x → x = stage ∨ t.Closes x

inductive CloserMove (s t : State) : Prop where
  | aside (stages : ∀ x, t.Closes x ↔ s.Closes x) (each : t.listenerCloses = s.listenerCloses)
      (closed : t.closed = s.closed)
      (registry : t.registry = s.registry) (length : t.listeners.length = s.listeners.length)
      (shut : ∀ l, t.isShut l = s.isShut l)
  | registered (key : Option Bytes) (isOpen : s.closed = false) (stages : ∀ x, t.Closes x ↔ s.Closes x)
      (each : t.listenerCloses = s.listenerCloses) (closed : t.closed = s.closed)
      (registry : ∀ l ∈ s.registry.listeners, l ∈ t.registry.listeners)
      (added : s.listeners.length ∈ t.registry.listeners)
      (listeners : t.listeners = s.listeners ++ [s.newListener key])
  | unregistered {l} (stages : ∀ x, t.Closes x ↔ s.Closes x)
      (each : t.listenerCloses = s.listenerCloses ++ [⟨l, .closing⟩]) (closed : t.closed = s.closed)
      (registry : ∀ k ∈ s.registry.listeners, k = l ∨ k ∈ t.registry.listeners)
      (empty : s.registry = {} → t.registry = {})
      (listeners : t.listeners = s.listeners)
  | began (stages : ∀ x, t.Closes x ↔ x = .swapping ∨ s.Closes x) (each : t.listenerCloses = s.listenerCloses)
      (beside : Beside s t)
  | advanced {stage} (moves : Advanced s t stage (s.closeAdvance stage).1) (each : t.listenerCloses = s.listenerCloses)
      (beside : Beside (s.closeAdvance stage).2 t)
  | ended (had : s.Closes .returned) (came : ∀ x, t.Closes x → s.Closes x)
      (stays : ∀ x, s.Closes x → x = .returned ∨ t.Closes x)
      (each : t.listenerCloses = s.listenerCloses) (beside : Beside s t)
  | shutOne {l} (stages : ∀ x, t.Closes x ↔ s.Closes x)
      (rings : (s.closeQueue l).1 = true → ⟨l, .ringing⟩ ∈ t.listenerCloses)
      (each : ∀ c ∈ s.listenerCloses, c = ⟨l, .closing⟩ ∨ c ∈ t.listenerCloses) (beside : Beside (s.closeQueue l).2 t)
  | rangOne {l} (stages : ∀ x, t.Closes x ↔ s.Closes x)
      (each : ∀ c ∈ s.listenerCloses, c = ⟨l, .ringing⟩ ∨ c ∈ t.listenerCloses) (beside : Beside (s.ringAll l) t)

theorem closesSame {s t : State} (closes : t.closes = s.closes) (serves : t.serves = s.serves) (x : CloseStage) :
    t.Closes x ↔ s.Closes x := by simp [Closes, closes, serves]

theorem asideSame {s t : State} (closes : t.closes = s.closes) (serves : t.serves = s.serves)
    (each : t.listenerCloses = s.listenerCloses) (closed : t.closed = s.closed) (registry : t.registry = s.registry)
    (listeners : t.listeners = s.listeners) : CloserMove s t :=
  .aside (closesSame closes serves) each closed registry (by rw [listeners]) (shutSame listeners)

theorem memSet {α : Type} {xs : List α} {i : Nat} {old : α} (found : xs[i]? = some old) (new : α) :
    new ∈ xs.set i new ∧ (∀ x ∈ xs.set i new, x = new ∨ x ∈ xs) ∧ ∀ x ∈ xs, x = old ∨ x ∈ xs.set i new := by
  have present := (List.getElem?_eq_some_iff.mp found).1
  refine ⟨List.mem_set present new, fun x member => (List.mem_or_eq_of_mem_set member).symm, fun x member => ?_⟩
  obtain ⟨j, there⟩ := List.getElem?_of_mem member
  by_cases same : i = j
  · subst j
    exact .inl (Option.some.inj (there.symm.trans found))
  · exact .inr (List.mem_of_getElem? ((List.getElem?_set_ne same).trans there))

theorem advancedClose {s : State} {i : Nat} {stage : CloseStage} (found : s.closes[i]? = some stage) {t : State}
    (next : CloseStage) (closes : t.closes = s.closes.set i next) (serves : t.serves = s.serves) :
    Advanced s t stage next := by
  obtain ⟨has, came, stays⟩ := memSet found next
  refine ⟨.inl (List.mem_of_getElem? found), .inl (closes ▸ has), fun x => ?_, fun x => ?_⟩
  · rintro (member | member)
    · exact (came x (closes ▸ member)).imp_right .inl
    · exact .inr (.inr (serves ▸ member))
  · rintro (member | member)
    · exact (stays x member).imp_right fun h => .inl (closes ▸ h)
    · exact .inr (.inr (serves ▸ member))

theorem advancedServe {s : State} {i : Nat} {old : ServeStage} (found : s.serves[i]? = some old) {t : State}
    (new : ServeStage) (closes : t.closes = s.closes) (serves : t.serves = s.serves.set i new) :
    (∀ x, t.Closes x → (∃ result, new = .closing x result) ∨ s.Closes x) ∧
      (∀ x, s.Closes x → (∃ result, old = .closing x result) ∨ t.Closes x) ∧
      ∀ x result, new = .closing x result → t.Closes x := by
  obtain ⟨has, came, stays⟩ := memSet found new
  refine ⟨fun x => ?_, fun x => ?_, fun x result same => .inr ⟨result, serves ▸ same ▸ has⟩⟩
  · rintro (member | ⟨result, member⟩)
    · exact .inr (.inl (closes ▸ member))
    · exact (came _ (serves ▸ member)).imp (fun same => ⟨result, same.symm⟩) fun old => .inr ⟨result, old⟩
  · rintro (member | ⟨result, member⟩)
    · exact .inr (.inl (closes ▸ member))
    · exact (stays _ member).imp (fun same => ⟨result, same.symm⟩) fun kept => .inr ⟨result, serves ▸ kept⟩

theorem closesServing {s t : State} {i : Nat} {old new : ServeStage} (found : s.serves[i]? = some old)
    (closes : t.closes = s.closes) (serves : t.serves = s.serves.set i new) (before : old.close? = none)
    (after : new.close? = none) (x : CloseStage) : t.Closes x ↔ s.Closes x := by
  obtain ⟨came, stays, _⟩ := advancedServe found new closes serves
  constructor
  · intro closing
    rcases came x closing with ⟨r, rfl⟩ | kept
    · cases after
    · exact kept
  · intro closing
    rcases stays x closing with ⟨r, rfl⟩ | kept
    · cases before
    · exact kept

theorem closerCall {s t : State} (move : CallerMove s t) : CloserMove s t := by
  cases move with
  | rest closes serves each beside => exact asideSame closes serves each beside.closed beside.registry beside.listeners
  | closeBegan closes serves each beside =>
    refine .began (fun x => ?_) each beside
    simp only [Closes, closes, serves, List.mem_append, List.mem_singleton]
    rw [or_comm (b := x = .swapping), or_assoc]
  | closeWent found closes serves each beside => exact .advanced (advancedClose found _ closes serves) each beside
  | serveBegan closes serves each beside =>
    refine .aside (fun x => ?_) each beside.closed beside.registry (congrArg List.length beside.listeners)
      (shutSame beside.listeners)
    simp [Closes, closes, serves]
  | @serveWent i stage next u found closes serves each move beside =>
    have quiet (before : stage.close? = none) (after : next.close? = none) (beside : Beside s t) : CloserMove s t :=
      .aside (closesServing found closes serves before after) each beside.closed beside.registry
        (congrArg List.length beside.listeners) (shutSame beside.listeners)
    obtain ⟨came, stays, has⟩ := advancedServe found _ closes serves
    cases move with
    | aside before early => exact quiet before (ServeStage.earlyCloses early) beside
    | answered before => exact quiet before rfl beside
    | began =>
      refine .began (fun x => ⟨fun closing => ?_, ?_⟩) each beside
      · simpa [eq_comm] using came x closing
      · rintro (rfl | kept)
        · exact has _ _ rfl
        · simpa using stays x kept
    | @went stage result =>
      refine .advanced ⟨.inr ⟨result, List.mem_of_getElem? found⟩, has _ _ rfl, fun x closing => ?_, fun x closing => ?_⟩
        each beside
      · simpa [eq_comm] using came x closing
      · simpa [eq_comm] using stays x closing
    | @ended result =>
      refine .ended (.inr ⟨result, List.mem_of_getElem? found⟩) (fun x closing => ?_) (fun x closing => ?_) each beside
      · simpa using came x closing
      · simpa [eq_comm] using stays x closing

theorem closerListenerCloseStep (s : State) (i : Nat) : CloserMove s (s.listenerCloseStep i) := by
  unfold listenerCloseStep
  cases found : s.listenerCloses[i]? with
  | none => exact asideSame rfl rfl rfl rfl rfl rfl
  | some c =>
    obtain ⟨l, stage⟩ := c
    cases stage with
    | closing =>
      obtain ⟨has, _, stays⟩ := memSet found ⟨l, if (s.closeQueue l).1 then .ringing else .returned false⟩
      obtain ⟨closes, serves, each⟩ := closeQueueSame s l
      refine .shutOne (l := l) (closesSame closes serves) (fun wasOpen => ?_) (fun c member => ?_) ⟨rfl, rfl, rfl⟩
      · rw [if_pos wasOpen] at has
        simpa only [wasOpen, each, if_true] using has
      · simpa only [each] using stays c member
    | ringing =>
      obtain ⟨_, _, stays⟩ := memSet found ⟨l, .returned true⟩
      exact .rangOne (l := l) (closesSame rfl rfl) stays ⟨rfl, rfl, rfl⟩
    | returned => exact asideSame rfl rfl rfl rfl rfl rfl

theorem closerUnregister (s : State) (key : Bytes) : CloserMove s (s.unregister key).2 := by
  unfold unregister Registry.remove
  cases found : s.registry.routes.find? (·.1 == key) with
  | none => exact asideSame rfl rfl rfl rfl rfl rfl
  | some entry =>
    refine .unregistered (l := entry.2) (closesSame rfl rfl) rfl rfl (fun k member => ?_) (fun empty => ?_) rfl
    · obtain ⟨hit, earlier, later, routes, misses⟩ := List.find?_eq_some_iff_append.mp found
      have erased : s.registry.routes.eraseP (·.1 == key) = earlier ++ later := by
        rw [routes, List.eraseP_append_right _ (by simpa using misses)]
        simp [hit]
      simp only [Registry.listeners, routes, List.map_append, List.map_cons, List.mem_append, List.mem_cons] at member
      simp only [Registry.listeners, beginListenerClose, erased, List.map_append, List.mem_append]
      rcases member with (early | same | late) | default
      · exact .inr (.inl (.inl early))
      · exact .inl same
      · exact .inr (.inl (.inr late))
      · exact .inr (.inr default)
    · rw [empty] at found
      simp at found

theorem closerRegister (s : State) (key : Bytes) : CloserMove s (s.register key).2 := by
  unfold register Registry.insert
  cases s.setup.validateKey key with
  | error => exact asideSame rfl rfl rfl rfl rfl rfl
  | ok =>
    simp only [bind, Except.bind]
    by_cases closed : s.closed = true
    · simp only [if_pos closed]
      exact asideSame rfl rfl rfl rfl rfl rfl
    · simp only [if_neg closed]
      by_cases present : s.registry.contains key = true
      · simp only [if_pos present]
        exact asideSame rfl rfl rfl rfl rfl rfl
      · simp only [if_neg present]
        refine .registered (some key) (by simpa using closed) (closesSame rfl rfl) rfl rfl (fun l member => ?_) ?_ rfl
        · simp only [Registry.listeners, List.map_append, List.mem_append] at member ⊢
          rcases member with route | default
          · exact .inl (.inl route)
          · exact .inr default
        · simp [Registry.listeners]

theorem closerRegisterDefault (s : State) : CloserMove s s.registerDefault.2 := by
  unfold registerDefault Registry.setDefault
  by_cases closed : s.closed = true
  · simp only [if_pos closed]
    exact asideSame rfl rfl rfl rfl rfl rfl
  · simp only [if_neg closed]
    cases free : s.registry.unmatched with
    | some l => exact asideSame rfl rfl rfl rfl rfl rfl
    | none =>
      refine .registered none (by simpa using closed) (closesSame rfl rfl) rfl rfl (fun l member => ?_) ?_ rfl
      · simp only [Registry.listeners, free, Option.toList_none, List.append_nil] at member
        simp [Registry.listeners, member]
      · simp [Registry.listeners]

theorem closerUnregisterDefault (s : State) : CloserMove s s.unregisterDefault.2 := by
  unfold unregisterDefault Registry.takeDefault
  cases found : s.registry.unmatched with
  | none => exact asideSame rfl rfl rfl rfl rfl rfl
  | some l =>
    refine .unregistered (l := l) (closesSame rfl rfl) rfl rfl (fun k member => ?_) (fun empty => ?_) rfl
    · simp only [Registry.listeners, found, Option.toList_some, List.mem_append, List.mem_singleton] at member
      rcases member with route | rfl
      · exact .inr (by simp only [Registry.listeners, beginListenerClose, List.mem_append, route, true_or])
      · exact .inl rfl
    · simp [empty] at found

theorem closerWorkerStep (s : State) (i : Nat) : CloserMove s (s.workerStep i) := by
  cases worker : s.workers[i]? with
  | none =>
    rw [noWorkerStep worker]
    exact asideSame rfl rfl rfl rfl rfl rfl
  | some w =>
    obtain ⟨arrival, owner, deadline, stage⟩ := w
    cases stage with
    | peeking | settled =>
      simp only [workerStep, worker]
      exact asideSame rfl rfl rfl rfl rfl rfl
    | peeked header =>
      simp only [workerStep, worker]
      split <;> exact asideSame rfl rfl rfl rfl rfl rfl
    | found header l =>
      simp only [workerStep, worker, deliver]
      cases target : s.listeners[l]? with
      | none => exact asideSame rfl rfl rfl rfl rfl rfl
      | some L =>
        dsimp only
        split
        · rename_i queue accepted
          have same := Listener.Queue.pushClosed L.capacity L.queue ⟨.ofHeader arrival.connection header, arrival.peer⟩
          rw [accepted] at same
          exact .aside (closesSame rfl rfl) rfl rfl rfl (List.length_modify _ _ _) (shutSetQueue target same)
        · exact asideSame rfl rfl rfl rfl rfl rfl
    | ringing l =>
      simp only [workerStep, worker]
      exact .aside (closesSame rfl rfl) rfl rfl rfl (List.length_modify _ _ _) (shutKeep (by simp))

theorem closerSetBell (s : State) (l call : Nat) (change : Bell → Bell) (stage : AcceptStage) :
    CloserMove s ((s.setListener l fun L => { L with bell := change L.bell }).setAccept call stage) :=
  .aside (closesSame rfl rfl) rfl rfl rfl (List.length_modify _ _ _) (shutKeep (by simp))

theorem closerAcceptStep (s : State) (call : Nat) : CloserMove s (s.acceptStep call) := by
  have still : CloserMove s s := asideSame rfl rfl rfl rfl rfl rfl
  cases found : s.accepts[call]? with
  | none => simpa only [acceptStep, found] using still
  | some a =>
    obtain ⟨l, stage⟩ := a
    simp only [acceptStep, found]
    cases stage with
    | begun | entering => exact closerSetBell s l call (Bell.take call) _
    | leaving => exact closerSetBell s l call (Bell.leave call) _
    | sleeping =>
      dsimp only
      split
      · exact closerSetBell s l call (Bell.pass call) _
      · exact still
    | returned | cancelled => exact still
    | looking =>
      dsimp only
      cases target : s.listeners[l]? with
      | none => exact still
      | some L =>
        dsimp only
        split
        · rename_i routed queue popped
          have same := Listener.Queue.popClosed L.queue
          rw [popped] at same
          exact .aside (closesSame rfl rfl) rfl rfl rfl (List.length_modify _ _ _) (shutSetQueue target same)
        · exact asideSame rfl rfl rfl rfl rfl rfl
        · exact asideSame rfl rfl rfl rfl rfl rfl

theorem closerCancelAccept (s : State) (call : Nat) : CloserMove s (s.cancelAccept call) := by
  unfold cancelAccept
  split
  · exact asideSame rfl rfl rfl rfl rfl rfl
  · exact closerSetBell s _ call (Bell.leave call) _
  · exact asideSame rfl rfl rfl rfl rfl rfl

theorem closerMove (s : State) (e : Event) : CloserMove s (s.apply e) := by
  cases e with
  | register key => exact closerRegister s key
  | registerDefault => exact closerRegisterDefault s
  | unregister key => exact closerUnregister s key
  | unregisterDefault => exact closerUnregisterDefault s
  | beginListenerClose l =>
    exact .unregistered (l := l) (closesSame rfl rfl) rfl rfl (fun _ member => .inr member) id rfl
  | listenerCloseStep i => exact closerListenerCloseStep s i
  | beginClose => exact closerCall (.closeBegan rfl rfl rfl ⟨rfl, rfl, rfl⟩)
  | closeStep i => exact closerCall (callerCloseStep s i)
  | beginServe => exact closerCall (.serveBegan rfl rfl rfl ⟨rfl, rfl, rfl⟩)
  | serveStep i => exact closerCall (callerServeStep s i)
  | accepted call arrival =>
    obtain ⟨workers, counts, frame⟩ := acceptedFrame s call arrival
    change CloserMove s (s.accepted call arrival)
    rw [frame]
    exact asideSame rfl rfl rfl rfl rfl rfl
  | acceptFailed i cause => exact closerCall (callerAcceptFailed s i cause)
  | cancelServe i => exact closerCall (callerCancelServe s i)
  | workerRead i attempt =>
    obtain ⟨workers, counts, frame⟩ := workerReadFrame s i attempt
    change CloserMove s (s.workerRead i attempt)
    rw [frame]
    exact asideSame rfl rfl rfl rfl rfl rfl
  | workerTimeout i =>
    obtain ⟨workers, counts, frame⟩ := workerTimeoutFrame s i
    change CloserMove s (s.workerTimeout i)
    rw [frame]
    exact asideSame rfl rfl rfl rfl rfl rfl
  | workerStep i => exact closerWorkerStep s i
  | acceptStep call => exact closerAcceptStep s call
  | cancelAccept call => exact closerCancelAccept s call
  | beginAccept | advance => exact asideSame rfl rfl rfl rfl rfl rfl

theorem closeQueueShut {s : State} {k l : Nat} (shut : (s.closeQueue k).2.isShut l = true) :
    s.isShut l = true ∨ l = k ∧ (s.closeQueue k).1 = true := by
  rcases (shutCloseQueue s k l).mp shut with before | ⟨rfl, present⟩
  · exact .inl before
  · cases before : s.isShut l with
    | true => exact .inl rfl
    | false => exact .inr ⟨rfl, (wasOpen s l).mpr ⟨present, before⟩⟩

/- Whoever shuts a queue owes it a ring. -/
theorem shutMove {s t : State} {l : Nat} (move : CloserMove s t) (shut : t.isShut l = true) :
    s.isShut l = true ∨ t.RingsAll l := by
  cases move with
  | aside _ _ _ _ _ same => exact .inl (same l ▸ shut)
  | @registered key _ _ _ _ _ _ listeners =>
    have same : t.isShut l =
        { s with registry := {}, listeners := s.listeners ++ [s.newListener key] : State }.isShut l :=
      shutSame listeners l
    rw [same, shutAppend] at shut
    exact .inl shut
  | unregistered _ _ _ _ _ listeners => exact .inl (shutSame listeners l ▸ shut)
  | began _ _ beside | ended _ _ _ _ beside => exact .inl (shutSame beside.listeners l ▸ shut)
  | rangOne _ _ beside =>
    rw [shutSame beside.listeners, shutRingAll] at shut
    exact .inl shut
  | shutOne _ rings _ beside =>
    rw [shutSame beside.listeners] at shut
    rcases closeQueueShut shut with before | ⟨rfl, wasOpen⟩
    · exact .inl before
    · exact .inr (.inr (rings wasOpen))
  | @advanced stage moves _ beside =>
    rw [shutSame beside.listeners] at shut
    cases stage with
    | closing left =>
      cases left with
      | nil => exact .inl shut
      | cons k left =>
        rcases closeQueueShut shut with before | ⟨rfl, wasOpen⟩
        · exact .inl before
        · have next := moves.has
          simp only [closeAdvance, wasOpen, if_true] at next
          exact .inr (.inl ⟨left, next⟩)
    | ringing k left =>
      simp only [closeAdvance, shutRingAll] at shut
      exact .inl shut
    | swapping | taking =>
      unfold closeAdvance at shut
      dsimp only at shut
      split at shut <;> exact .inl shut
    | signalling | closingSource | draining | returned => exact .inl shut

theorem ringsAllMove {s t : State} {l : Nat} (move : CloserMove s t) (owed : s.RingsAll l) :
    t.RingsAll l ∨ t.bell l = (s.bell l).ringAll := by
  have rung {u : State} (listeners : u.listeners = (s.ringAll l).listeners) : u.bell l = (s.bell l).ringAll := by
    rw [← bellRingAll]
    simp [bell, listeners]
  have kept (stages : ∀ left, s.Closes (.ringing l left) → t.Closes (.ringing l left))
      (each : ⟨l, .ringing⟩ ∈ s.listenerCloses → ⟨l, .ringing⟩ ∈ t.listenerCloses) : t.RingsAll l :=
    owed.imp (Exists.imp stages) each
  cases move with
  | aside stages each | registered _ _ stages each =>
    exact .inl (kept (fun _ => (stages _).mpr) (by simp [each]))
  | unregistered stages each => exact .inl (kept (fun _ => (stages _).mpr) (by simp [each]))
  | began stages each => exact .inl (kept (fun _ h => (stages _).mpr (.inr h)) (by simp [each]))
  | ended _ _ stays each => exact .inl (kept (fun _ h => by simpa using stays _ h) (by simp [each]))
  | shutOne stages _ each => exact .inl (kept (fun _ => (stages _).mpr) fun h => by simpa using each _ h)
  | @rangOne k stages each beside =>
    by_cases here : l = k
    · subst k
      exact .inr (rung beside.listeners)
    · exact .inl (kept (fun _ => (stages _).mpr) fun h => by simpa [here] using each _ h)
  | @advanced stage moves each beside =>
    by_cases here : ∃ left, stage = .ringing l left
    · obtain ⟨left, rfl⟩ := here
      exact .inr (rung beside.listeners)
    · refine .inl (kept (fun left h => ?_) (by simp [each]))
      exact (moves.stays _ h).resolve_left fun same => here ⟨left, same.symm⟩

end SharedPort.Selector.State
