import SharedPort.Proofs.Selector.Changes

/-! What one event does at one listener: to its bell and its queue, to the accept calls made there, and to the workers
that delivered there and still have to ring. -/
namespace SharedPort.Selector.State
open SharedPort.Listener (Bell)
open SharedPort.Stream (Attempt)

def bell (s : State) (l : Nat) : Bell := ((s.listeners[l]?).map (·.bell)).getD {}

def stageAt (s : State) (l call : Nat) : Option AcceptStage :=
  (s.accepts[call]?).bind fun a => if a.listener = l then some a.stage else none

def Rings (s : State) (l i : Nat) : Prop := ∃ w, s.workers[i]? = some w ∧ w.stage = .ringing l

theorem bellOfListener {s : State} {l : Nat} {L : Listener Routed} (found : s.listeners[l]? = some L) :
    s.bell l = L.bell := by simp [bell, found]

theorem stageOf {s : State} {call : Nat} {a : Accept} (found : s.accepts[call]? = some a) (l : Nat) :
    s.stageAt l call = if a.listener = l then some a.stage else none := by simp [stageAt, found]

theorem stageAtSome {s : State} {l call : Nat} {stage : AcceptStage} :
    s.stageAt l call = some stage ↔ s.accepts[call]? = some ⟨l, stage⟩ := by
  simp only [stageAt, Option.bind_eq_some_iff, Option.ite_none_right_eq_some, Option.some.injEq]
  constructor
  · rintro ⟨⟨_, _⟩, found, rfl, rfl⟩
    exact found
  · exact fun found => ⟨_, found, by simp⟩

theorem stageRun {s : State} {l call : Nat} {stage : AcceptStage} (here : s.stageAt l call = some stage)
    (events : List Event) :
    ∃ later, (s.run events).stageAt l call = some later := by
  induction events generalizing s stage with
  | nil => exact ⟨stage, here⟩
  | cons e rest ih =>
    obtain ⟨next, found, _⟩ := acceptMoves e (stageAtSome.mp here)
    exact ih (stageAtSome.mpr found)

theorem bellKeep {s : State} {i : Nat} {change : Listener Routed → Listener Routed}
    (keeps : ∀ L, (change L).bell = L.bell) (l : Nat) : (s.setListener i change).bell l = s.bell l := by
  simp only [bell, setListener, List.getElem?_modify]
  cases s.listeners[l]? with
  | none => simp
  | some L => by_cases same : i = l <;> simp [same, keeps]

theorem bellElsewhere (s : State) {i l : Nat} (change : Listener Routed → Listener Routed) (other : l ≠ i) :
    (s.setListener i change).bell l = s.bell l := by
  simp only [bell, setListener, List.getElem?_modify]
  cases s.listeners[l]? <;> simp [other.symm]

theorem bellSet {s : State} {i : Nat} (present : i < s.listeners.length) (change : Bell → Bell) :
    (s.setListener i fun L => { L with bell := change L.bell }).bell i = change (s.bell i) := by
  simp [bell, setListener, List.getElem?_eq_getElem present]

theorem bellAppend (s : State) (registry : Registry) (key : Option Bytes) (l : Nat) :
    { s with registry, listeners := s.listeners ++ [s.newListener key] : State }.bell l = s.bell l := by
  simp only [bell, List.getElem?_append]
  split
  · rfl
  · rename_i beyond
    rw [List.getElem?_eq_none (Nat.le_of_not_lt beyond), List.getElem?_singleton]
    split <;> simp [newListener]

theorem bellCloseQueue (s : State) (i l : Nat) : (s.closeQueue i).2.bell l = s.bell l := by
  unfold closeQueue
  split
  · rfl
  · apply bellKeep
    simp

theorem bellAbsent {s : State} {l : Nat} (absent : s.listeners.length ≤ l) : s.bell l = {} := by
  simp [bell, List.getElem?_eq_none absent]

theorem bellRingAll (s : State) (l : Nat) : (s.ringAll l).bell l = (s.bell l).ringAll := by
  by_cases present : l < s.listeners.length
  · exact bellSet present Bell.ringAll
  · have absent := Nat.le_of_not_lt present
    have same : s.ringAll l = s := by simp [ringAll, setListener, List.modify_eq_self absent]
    simp [same, bellAbsent absent, Bell.ringAll]

def BellMove (s t : State) (l : Nat) : Prop := t.bell l = s.bell l ∨ t.bell l = (s.bell l).ringAll

theorem bellMoveSame {s t : State} (listeners : t.listeners = s.listeners) (l : Nat) : BellMove s t l := by
  simp [BellMove, bell, listeners]

theorem bellMoveRingAll (s : State) (i l : Nat) : BellMove s (s.ringAll i) l := by
  by_cases same : l = i
  · subst l
    exact .inr (bellRingAll s i)
  · exact .inl (bellElsewhere s _ same)

theorem bellMoveCloseAdvance (s : State) (stage : CloseStage) (l : Nat) : BellMove s (s.closeAdvance stage).2 l := by
  cases stage with
  | swapping | taking => unfold closeAdvance; dsimp only; split <;> exact bellMoveSame rfl l
  | closing left =>
    cases left with
    | nil => exact bellMoveSame rfl l
    | cons i left => exact .inl (bellCloseQueue s i l)
  | ringing i left => exact bellMoveRingAll s i l
  | signalling | closingSource | draining | returned => exact bellMoveSame rfl l

theorem bellMoveServeStep (s : State) (i l : Nat) : BellMove s (s.serveStep i) l := by
  unfold serveStep
  split
  · split <;> exact bellMoveSame rfl l
  · exact bellMoveSame rfl l
  · exact bellMoveSame rfl l
  · split <;> exact bellMoveSame rfl l
  · split <;> exact bellMoveSame rfl l
  · exact bellMoveSame rfl l
  · exact bellMoveSame rfl l
  · exact bellMoveCloseAdvance s _ l
  · dsimp only
    split <;> exact bellMoveSame rfl l
  · exact bellMoveSame rfl l

theorem bellMoveCloseStep (s : State) (i l : Nat) : BellMove s (s.closeStep i) l := by
  unfold closeStep
  split
  · exact bellMoveSame rfl l
  · exact bellMoveCloseAdvance s _ l

theorem bellMoveListenerCloseStep (s : State) (i l : Nat) : BellMove s (s.listenerCloseStep i) l := by
  unfold listenerCloseStep
  split
  · exact .inl (bellCloseQueue s _ l)
  · exact bellMoveRingAll s _ l
  · exact bellMoveSame rfl l

theorem bellMoveRegister (s : State) (key : Bytes) (l : Nat) : BellMove s (s.register key).2 l := by
  unfold register
  dsimp only
  split
  · exact bellMoveSame rfl l
  · exact .inl (bellAppend s _ _ l)

theorem bellMoveRegisterDefault (s : State) (l : Nat) : BellMove s s.registerDefault.2 l := by
  unfold registerDefault
  dsimp only
  split
  · exact bellMoveSame rfl l
  · exact .inl (bellAppend s _ _ l)

theorem bellMoveUnregister (s : State) (key : Bytes) (l : Nat) : BellMove s (s.unregister key).2 l := by
  unfold unregister
  split <;> exact bellMoveSame rfl l

theorem bellMoveUnregisterDefault (s : State) (l : Nat) : BellMove s s.unregisterDefault.2 l := by
  unfold unregisterDefault
  split <;> exact bellMoveSame rfl l

theorem bellMoveAcceptFailed (s : State) (i : Nat) (cause : Error) (l : Nat) :
    BellMove s (s.acceptFailed i cause) l := by
  unfold acceptFailed
  split
  · split <;> exact bellMoveSame rfl l
  · exact bellMoveSame rfl l

theorem bellMoveCancelServe (s : State) (i l : Nat) : BellMove s (s.cancelServe i) l := by
  unfold cancelServe
  split <;> exact bellMoveSame rfl l

structure Aside (s t : State) (l : Nat) : Prop where
  waiting : t.waiting l = s.waiting l
  calls : ∀ call, t.stageAt l call = s.stageAt l call
  ringers : ∀ i, t.Rings l i ↔ s.Rings l i

/- One step of an accept call, with what it does to the bell. -/
inductive CallMove (s t : State) (l call : Nat) : AcceptStage → AcceptStage → Prop where
  | entered {before} (outside : before = .begun ∨ before = .entering) (bell : t.bell l = (s.bell l).take call)
      (same : t.waiting l = s.waiting l) : CallMove s t l call before .looking
  | popped {routed} (bell : t.bell l = s.bell l) (waits : s.waiting l = routed :: t.waiting l) :
      CallMove s t l call .looking (.leaving (.ok routed))
  | ended (bell : t.bell l = s.bell l) (drained : s.waiting l = []) (same : t.waiting l = s.waiting l) :
      CallMove s t l call .looking (.leaving (.error .listenerClosed))
  | slept {L} (bell : t.bell l = s.bell l) (drained : s.waiting l = []) (same : t.waiting l = s.waiting l)
      (listeners : t.listeners = s.listeners) (found : s.listeners[l]? = some L) (isOpen : L.queue.closed = false) :
      CallMove s t l call .looking .sleeping
  | woken (awake : (s.bell l).isAwake call = true) (bell : t.bell l = (s.bell l).discard call)
      (same : t.waiting l = s.waiting l) : CallMove s t l call .sleeping .entering
  | returned {result} (bell : t.bell l = (s.bell l).leave call) (same : t.waiting l = s.waiting l) :
      CallMove s t l call (.leaving result) (.returned result)
  | cancelled (bell : t.bell l = (s.bell l).leave call) (same : t.waiting l = s.waiting l) :
      CallMove s t l call .sleeping .cancelled
  | dropped (bell : t.bell l = s.bell l) (same : t.waiting l = s.waiting l) :
      CallMove s t l call .begun .cancelled

inductive ListenerMove (s t : State) (l : Nat) : Prop where
  | still (aside : Aside s t l) (bell : t.bell l = s.bell l)
  | rungAll (aside : Aside s t l) (bell : t.bell l = (s.bell l).ringAll)
  | began {call} (bell : t.bell l = s.bell l) (waiting : t.waiting l = s.waiting l)
      (begun : t.stageAt l call = some .begun)
      (others : ∀ other, other ≠ call → t.stageAt l other = s.stageAt l other) (fresh : s.stageAt l call = none)
      (ringers : ∀ i, t.Rings l i ↔ s.Rings l i)
  | pushed {i} (bell : t.bell l = s.bell l) (grown : (t.waiting l).length = (s.waiting l).length + 1)
      (calls : ∀ call, t.stageAt l call = s.stageAt l call) (rings : t.Rings l i) (fresh : ¬ s.Rings l i)
      (others : ∀ j, j ≠ i → (t.Rings l j ↔ s.Rings l j))
  | rung {i} (bell : t.bell l = (s.bell l).ringOne) (waiting : t.waiting l = s.waiting l)
      (calls : ∀ call, t.stageAt l call = s.stageAt l call) (others : ∀ j, j ≠ i → (t.Rings l j ↔ s.Rings l j))
  | called {call before after} (found : s.stageAt l call = some before) (next : t.stageAt l call = some after)
      (others : ∀ other, other ≠ call → t.stageAt l other = s.stageAt l other) (ringers : ∀ i, t.Rings l i ↔ s.Rings l i)
      (move : CallMove s t l call before after)

theorem listenerOfBell {s t : State} {l : Nat} (aside : Aside s t l) (bell : BellMove s t l) : ListenerMove s t l := by
  rcases bell with same | all
  · exact .still aside same
  · exact .rungAll aside all

theorem asideWorkers {s t : State} {l : Nat} (waiting : t.waiting l = s.waiting l) (accepts : t.accepts = s.accepts)
    (workers : t.workers = s.workers) : Aside s t l := by
  constructor
  · exact waiting
  · simp [stageAt, accepts]
  · simp [Rings, workers]

theorem asideQuiet {s t : State} (quiet : Quiet s t) (l : Nat) : Aside s t l :=
  asideWorkers (quiet.waiting l) quiet.accepts quiet.workers

theorem ringsAbort (s : State) (owner l i : Nat) : (s.abortWorkers owner).Rings l i ↔ s.Rings l i := by
  unfold Rings
  cases found : s.workers[i]? with
  | none => simp [abortWorkers, found]
  | some w =>
    obtain ⟨stage, next, same | ⟨rfl, missing, got, reading⟩⟩ := workersAbort s owner i found
    · simp [next, same]
    · simp [next, reading]

theorem asideShed {s t : State} (shed : Shed s t) (l : Nat) : Aside s t l := by
  rcases shed.workers with same | ⟨owner, dropped⟩
  · exact asideWorkers (shed.waiting l) shed.accepts same
  · constructor
    · exact shed.waiting l
    · simp [stageAt, shed.accepts]
    · intro i
      rw [← ringsAbort s owner]
      simp [Rings, dropped]

theorem ringsStepped {s t : State} {i : Nat} {w : Worker} {stage : WorkerStage} (stepped : Stepped s t i w stage)
    (l : Nat) :
    (t.Rings l i ↔ stage = .ringing l) ∧ ∀ j, j ≠ i → (t.Rings l j ↔ s.Rings l j) := by
  constructor
  · simp [Rings, stepped.own]
  · intro j other
    simp [Rings, stepped.others j other]

theorem ringsOf {s : State} {i : Nat} {w : Worker} (found : s.workers[i]? = some w) (l : Nat) :
    s.Rings l i ↔ w.stage = .ringing l := by simp [Rings, found]

theorem asideStepped {s t : State} {i l : Nat} {w : Worker} {stage : WorkerStage} (found : s.workers[i]? = some w)
    (stepped : Stepped s t i w stage) (waiting : t.waiting l = s.waiting l) (accepts : t.accepts = s.accepts)
    (same : stage = .ringing l ↔ w.stage = .ringing l) : Aside s t l := by
  obtain ⟨own, others⟩ := ringsStepped stepped l
  constructor
  · exact waiting
  · simp [stageAt, accepts]
  · intro j
    by_cases here : j = i
    · subst j
      rw [own, same, ringsOf found]
    · exact others j here

theorem acceptedLength {α : Type} {capacity : Option Nat} {q p : Listener.Queue α} {item : α}
    (accepted : q.push capacity item = (.accepted, p)) : p.items.length = q.items.length + 1 := by
  unfold Listener.Queue.push at accepted
  split at accepted
  · simp at accepted
  · split at accepted
    · simp at accepted
    · simp only [Prod.mk.injEq, true_and] at accepted
      simp [← accepted]

theorem listenerWorkerStep {s : State} {l : Nat} (present : l < s.listeners.length) (i : Nat) :
    ListenerMove s (s.workerStep i) l := by
  cases worker : s.workers[i]? with
  | none =>
    rw [noWorkerStep worker]
    exact .still (asideQuiet (Quiet.refl s) l) rfl
  | some w =>
    obtain ⟨arrival, owner, deadline, stage⟩ := w
    cases stage with
    | peeking | settled =>
      simp only [workerStep, worker]
      exact .still (asideQuiet (Quiet.refl s) l) rfl
    | peeked header =>
      simp only [workerStep, worker]
      split
      · exact .still (asideStepped worker (steppedSetWorker worker rfl) rfl rfl (by simp)) rfl
      · exact .still (asideStepped worker (steppedSetWorker worker rfl) rfl rfl (by simp)) rfl
    | found header k =>
      simp only [workerStep, worker, deliver]
      cases target : s.listeners[k]? with
      | none => exact .still (asideStepped worker (steppedSetWorker worker rfl) rfl rfl (by simp)) rfl
      | some K =>
        dsimp only
        split
        · rename_i queue accepted
          have stepped : Stepped s ((s.setListener k ({ · with queue })).setWorker i (.ringing k)) i _ _ :=
            steppedSetWorker worker rfl
          have bell := bellKeep (s := s) (i := k) (fun L : Listener Routed => (rfl : { L with queue }.bell = L.bell)) l
          have waiting := waitingSetQueue target queue l
          by_cases here : l = k
          · subst l
            obtain ⟨own, others⟩ := ringsStepped stepped k
            rw [if_pos rfl] at waiting
            have grown := (congrArg List.length waiting).trans (acceptedLength accepted)
            rw [← waitingOfListener target] at grown
            exact .pushed bell grown (fun _ => rfl) (own.mpr rfl) (by simp [ringsOf worker]) others
          · rw [if_neg here] at waiting
            exact .still (asideStepped worker stepped waiting rfl (by simp [Ne.symm here])) bell
        · exact .still (asideStepped worker (steppedSetWorker worker rfl) rfl rfl (by simp)) rfl
    | ringing k =>
      simp only [workerStep, worker]
      have stepped : Stepped s ((s.ringOne k).settle i (.queued k)) i _ _ := steppedSetWorker worker rfl
      have waiting : ((s.ringOne k).settle i (.queued k)).waiting l = s.waiting l :=
        (quietSetBell s k Bell.ringOne).waiting l
      by_cases here : l = k
      · subst l
        exact .rung (bellSet present Bell.ringOne) waiting (fun _ => rfl) (ringsStepped stepped k).2
      · have different : k ≠ l := Ne.symm here
        exact .still (asideStepped worker stepped waiting rfl (by simp [different])) (bellElsewhere s _ here)

theorem stageAtSet {s t : State} {call k : Nat} {before after : AcceptStage} (found : s.accepts[call]? = some ⟨k, before⟩)
    (next : t.accepts = (s.setAccept call after).accepts) (l other : Nat) :
    t.stageAt l other = if other = call then if k = l then some after else none else s.stageAt l other := by
  simp only [stageAt, next, acceptsSetAccept found]
  by_cases same : other = call <;> simp [same]

theorem listenerElsewhere {s t : State} {call k l : Nat} {before after : AcceptStage}
    (found : s.accepts[call]? = some ⟨k, before⟩) (next : t.accepts = (s.setAccept call after).accepts)
    (workers : t.workers = s.workers) (waiting : t.waiting l = s.waiting l) (bell : t.bell l = s.bell l) (other : k ≠ l) :
    ListenerMove s t l := by
  refine .still ⟨waiting, fun j => ?_, by simp [Rings, workers]⟩ bell
  rw [stageAtSet found next]
  split
  · subst j
    simp [stageOf found, other]
  · rfl

theorem listenerCalled {s t : State} {call l : Nat} {before after : AcceptStage}
    (found : s.accepts[call]? = some ⟨l, before⟩) (next : t.accepts = (s.setAccept call after).accepts)
    (workers : t.workers = s.workers) (move : CallMove s t l call before after) : ListenerMove s t l := by
  refine .called (stageAtSome.mpr found) ?_ (fun other different => ?_) (by simp [Rings, workers]) move
  · simp [stageAtSet found next]
  · simp [stageAtSet found next, different]

/- A step that changes a bell changes no queue, and reaches `l` if it is made there. -/
theorem listenerBell {s : State} {call k l : Nat} {before after : AcceptStage} (present : l < s.listeners.length)
    (found : s.accepts[call]? = some ⟨k, before⟩) (change : Bell → Bell)
    (move : k = l → ∀ {t : State}, t.bell l = change (s.bell l) → t.waiting l = s.waiting l →
      CallMove s t l call before after) :
    ListenerMove s ((s.setListener k fun L => { L with bell := change L.bell }).setAccept call after) l := by
  have waiting := (quietSetBell s k change).waiting l
  by_cases here : k = l
  · subst k
    exact listenerCalled found rfl rfl (move rfl (bellSet present change) waiting)
  · exact listenerElsewhere found rfl rfl waiting (bellElsewhere s _ (Ne.symm here)) here

theorem listenerAcceptStep {s : State} {l : Nat} (present : l < s.listeners.length) (call : Nat) :
    ListenerMove s (s.acceptStep call) l := by
  have still : ListenerMove s s l := .still (asideQuiet (Quiet.refl s) l) rfl
  cases found : s.accepts[call]? with
  | none => simpa only [acceptStep, found] using still
  | some a =>
    obtain ⟨k, stage⟩ := a
    cases stage with
    | returned | cancelled => simpa only [acceptStep, found] using still
    | begun =>
      simp only [acceptStep, found]
      exact listenerBell present found (Bell.take call) fun _ _ bell same => .entered (.inl rfl) bell same
    | entering =>
      simp only [acceptStep, found]
      exact listenerBell present found (Bell.take call) fun _ _ bell same => .entered (.inr rfl) bell same
    | leaving =>
      simp only [acceptStep, found]
      exact listenerBell present found (Bell.leave call) fun _ _ bell same => .returned bell same
    | sleeping =>
      simp only [acceptStep, found]
      split
      · rename_i awake
        refine listenerBell present found (Bell.pass call) fun here _ bell same => .woken ?_ bell same
        subst k
        simpa [State.bell, List.getElem?_eq_getElem present] using awake
      · exact still
    | looking =>
      simp only [acceptStep, found]
      cases target : s.listeners[k]? with
      | none => exact still
      | some K =>
        have waits := waitingOfListener target
        simp only [Listener.Queue.pop]
        cases items : K.queue.items with
        | nil =>
          have drained := waits.trans items
          by_cases here : k = l
          · subst k
            cases closed : K.queue.closed with
            | true => exact listenerCalled found rfl rfl (.ended rfl drained rfl)
            | false => exact listenerCalled found rfl rfl (.slept rfl drained rfl rfl target closed)
          · cases closed : K.queue.closed <;> exact listenerElsewhere found rfl rfl rfl rfl here
        | cons routed rest =>
          have shrunk := waitingSetQueue target { K.queue with items := rest } l
          have bell := bellKeep (s := s) (i := k)
            (fun L => (rfl : Listener.bell { L with queue := { K.queue with items := rest } } = L.bell)) l
          by_cases here : k = l
          · subst k
            rw [if_pos rfl] at shrunk
            refine listenerCalled found rfl rfl (.popped bell ?_)
            rw [waits, items]
            exact congrArg _ shrunk.symm
          · rw [if_neg (Ne.symm here)] at shrunk
            exact listenerElsewhere found rfl rfl shrunk bell here

theorem listenerCancelAccept {s : State} {l : Nat} (present : l < s.listeners.length) (call : Nat) :
    ListenerMove s (s.cancelAccept call) l := by
  have still : ListenerMove s s l := .still (asideQuiet (Quiet.refl s) l) rfl
  cases found : s.accepts[call]? with
  | none => simpa only [cancelAccept, found] using still
  | some a =>
    obtain ⟨k, stage⟩ := a
    cases stage with
    | entering | looking | leaving | returned | cancelled => simpa only [cancelAccept, found] using still
    | begun =>
      simp only [cancelAccept, found]
      by_cases here : k = l
      · subst k
        exact listenerCalled found rfl rfl (.dropped rfl rfl)
      · exact listenerElsewhere found rfl rfl rfl rfl here
    | sleeping =>
      simp only [cancelAccept, found]
      exact listenerBell present found (Bell.leave call) fun _ _ bell same => .cancelled bell same

theorem listenerBeginAccept (s : State) (k l : Nat) : ListenerMove s (s.beginAccept k) l := by
  have calls : ∀ other, other ≠ s.accepts.length → (s.beginAccept k).stageAt l other = s.stageAt l other := by
    intro other different
    simp only [stageAt, beginAccept, List.getElem?_append]
    split
    · rfl
    · rename_i beyond
      have none : ¬ other - s.accepts.length = 0 := by omega
      simp [List.getElem?_eq_none (Nat.le_of_not_lt beyond), none]
  by_cases here : k = l
  · subst k
    have begun : (s.beginAccept l).stageAt l s.accepts.length = some .begun := by simp [stageAt, beginAccept]
    exact .began rfl rfl begun calls (by simp [stageAt]) fun _ => Iff.rfl
  · refine .still ⟨rfl, fun call => ?_, fun _ => Iff.rfl⟩ rfl
    by_cases new : call = s.accepts.length
    · subst call
      simp [stageAt, beginAccept, here]
    · exact calls call new

theorem asideReading {s t : State} {i l : Nat} {w : Worker} {e : Event} {stage : WorkerStage}
    (found : s.workers[i]? = some w) (stepped : Stepped s t i w stage) (move : WorkerMove s t i e w.stage stage)
    (foreign : e ≠ .workerStep i) (waiting : t.waiting l = s.waiting l) (accepts : t.accepts = s.accepts) :
    Aside s t l := by
  apply asideStepped found stepped waiting accepts
  generalize w.stage = before at move
  cases move with
  | rest => rfl
  | fed | filled | lost | aborted => simp
  | routed event | astray event | pushed event | refused event | vanished event | rung event => exact (foreign event).elim

theorem listenerWorkerRead (s : State) (i : Nat) (attempt : Attempt Bytes) (l : Nat) :
    ListenerMove s (s.workerRead i attempt) l := by
  cases found : s.workers[i]? with
  | none =>
    rw [noWorkerRead found]
    exact .still (asideQuiet (Quiet.refl s) l) rfl
  | some w =>
    obtain ⟨workers, counts, frame⟩ := workerReadFrame s i attempt
    obtain ⟨stage, stepped, move⟩ := readMove found attempt
    rw [frame] at stepped move ⊢
    exact .still (asideReading found stepped move (by simp) rfl rfl) rfl

theorem listenerWorkerTimeout (s : State) (i l : Nat) : ListenerMove s (s.workerTimeout i) l := by
  cases found : s.workers[i]? with
  | none =>
    rw [noWorkerTimeout found]
    exact .still (asideQuiet (Quiet.refl s) l) rfl
  | some w =>
    obtain ⟨workers, counts, frame⟩ := workerTimeoutFrame s i
    obtain ⟨stage, stepped, move⟩ := timeoutMove found
    rw [frame] at stepped move ⊢
    exact .still (asideReading found stepped move (by simp) rfl rfl) rfl

theorem listenerAccepted (s : State) (call : Nat) (arrival : Arrival) (l : Nat) :
    ListenerMove s (s.apply (.accepted call arrival)) l := by
  have joined := workersAccepted s call arrival
  obtain ⟨workers, counts, frame⟩ := acceptedFrame s call arrival
  change ListenerMove s (s.accepted call arrival) l
  rw [frame] at joined ⊢
  refine .still ⟨rfl, fun _ => rfl, fun i => ?_⟩ rfl
  dsimp only at joined
  simp only [Rings, joined, List.getElem?_append]
  split
  · rfl
  · rename_i beyond
    have peeking : ∀ w, (s.joins (.accepted call arrival))[i - s.workers.length]? = some w → w.stage ≠ .ringing l := by
      intro w found
      rw [joinsPeeking (List.mem_of_getElem? found)]
      simp
    simp only [List.getElem?_eq_none (Nat.le_of_not_lt beyond)]
    constructor
    · rintro ⟨w, found, rings⟩
      exact (peeking w found rings).elim
    · simp

theorem listenerMove {s : State} {l : Nat} (present : l < s.listeners.length) (e : Event) :
    ListenerMove s (s.apply e) l := by
  have quiet {t : State} (quiet : Quiet s t) (bell : BellMove s t l) : ListenerMove s t l :=
    listenerOfBell (asideQuiet quiet l) bell
  have shed {t : State} (shed : Shed s t) (bell : BellMove s t l) : ListenerMove s t l :=
    listenerOfBell (asideShed shed l) bell
  cases e with
  | register key => exact quiet (quietRegister s key) (bellMoveRegister s key l)
  | registerDefault => exact quiet (quietRegisterDefault s) (bellMoveRegisterDefault s l)
  | unregister key => exact quiet (quietUnregister s key) (bellMoveUnregister s key l)
  | unregisterDefault => exact quiet (quietUnregisterDefault s) (bellMoveUnregisterDefault s l)
  | listenerCloseStep i => exact quiet (quietListenerCloseStep s i) (bellMoveListenerCloseStep s i l)
  | closeStep i => exact quiet (quietCloseStep s i) (bellMoveCloseStep s i l)
  | serveStep i => exact shed (shedServeStep s i) (bellMoveServeStep s i l)
  | acceptFailed i cause => exact quiet (quietAcceptFailed s i cause) (bellMoveAcceptFailed s i cause l)
  | cancelServe i => exact shed (shedCancelServe s i) (bellMoveCancelServe s i l)
  | accepted call arrival => exact listenerAccepted s call arrival l
  | workerRead i attempt => exact listenerWorkerRead s i attempt l
  | workerTimeout i => exact listenerWorkerTimeout s i l
  | workerStep i => exact listenerWorkerStep present i
  | beginAccept k => exact listenerBeginAccept s k l
  | acceptStep call => exact listenerAcceptStep present call
  | cancelAccept call => exact listenerCancelAccept present call
  | beginListenerClose | beginClose | beginServe | advance =>
    exact quiet (quietSame rfl rfl rfl rfl) (bellMoveSame rfl l)

end SharedPort.Selector.State
