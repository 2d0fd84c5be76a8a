import SharedPort.Proofs.Selector.Workers

/-! The moves of queues and accept calls. A queue grows at its end when a worker delivers, shrinks at its front when an
accept call looks, and otherwise stays. -/
namespace SharedPort.Selector.State
open SharedPort.Stream (Attempt Replay)

inductive QueueMove (s : State) (e : Event) (t : State) : Prop where
  | still (same : ∀ k, t.waiting k = s.waiting k)
  | pushed {i l : Nat} {w : Worker} {header : Bytes} {L : Listener Routed} (event : e = .workerStep i)
      (worker : s.workers[i]? = some w) (stage : w.stage = .found header l)
      (target : s.listeners[l]? = some L) (isOpen : L.queue.closed = false)
      (room : L.queue.isFull L.capacity = false)
      (grown : ∀ k, t.waiting k =
        if k = l then s.waiting l ++ [⟨.ofHeader w.arrival.connection header, w.arrival.peer⟩] else s.waiting k)
      (next : t.workers[i]? = some { w with stage := .ringing l })
  | popped {call l : Nat} {routed : Routed} {rest : List Routed} (event : e = .acceptStep call)
      (looks : s.accepts[call]? = some ⟨l, .looking⟩) (waits : s.waiting l = routed :: rest)
      (shrunk : ∀ k, t.waiting k = if k = l then rest else s.waiting k)
      (next : t.accepts[call]? = some ⟨l, .leaving (.ok routed)⟩)

theorem waitingDeliver {s : State} {i l : Nat} {w : Worker} {header : Bytes} (worker : s.workers[i]? = some w)
    (stage : w.stage = .found header l) : QueueMove s (.workerStep i) (s.deliver i w.arrival header l) := by
  unfold deliver
  cases target : s.listeners[l]? with
  | none => exact .still fun _ => rfl
  | some L =>
    simp only [Listener.Queue.push]
    by_cases closed : L.queue.closed
    · rw [if_pos closed]
      exact .still fun _ => rfl
    · rw [if_neg closed]
      by_cases full : L.queue.isFull L.capacity
      · rw [if_pos full]
        exact .still fun _ => rfl
      · rw [if_neg full]
        refine .pushed rfl worker stage target (Bool.eq_false_iff.mpr closed) (Bool.eq_false_iff.mpr full)
          (fun k => ?_) (workersSetWorker worker _ i |>.trans (if_pos rfl))
        rw [waitingOfListener target]
        exact waitingSetQueue target _ k

theorem queueWorkerStep (s : State) (i : Nat) : QueueMove s (.workerStep i) (s.workerStep i) := by
  cases worker : s.workers[i]? with
  | none => rw [noWorkerStep worker]; exact .still fun _ => rfl
  | some w =>
    obtain ⟨arrival, owner, deadline, stage⟩ := w
    cases stage with
    | peeking | settled => simp only [workerStep, worker]; exact .still fun _ => rfl
    | peeked header =>
      simp only [workerStep, worker]
      split <;> exact .still fun _ => rfl
    | found header l =>
      simp only [workerStep, worker]
      exact waitingDeliver worker rfl
    | ringing l =>
      simp only [workerStep, worker]
      exact .still (quietSetBell s l Listener.Bell.ringOne).waiting

theorem acceptsSetAccept {s : State} {call : Nat} {a : Accept} (found : s.accepts[call]? = some a)
    (stage : AcceptStage) (j : Nat) :
    (s.setAccept call stage).accepts[j]? = if j = call then some { a with stage } else s.accepts[j]? := by
  simp only [setAccept, List.getElem?_modify]
  by_cases same : j = call
  · subst j; simp [found]
  · have other : call ≠ j := fun h => same h.symm
    simp [same, other]

theorem acceptsSetSame {s : State} {call : Nat} {a : Accept} (found : s.accepts[call]? = some a) :
    (s.setAccept call a.stage).accepts = s.accepts := by
  apply List.ext_getElem?
  intro j
  rw [acceptsSetAccept found]
  split
  · subst j; exact found.symm
  · rfl

theorem queueAcceptStep (s : State) (call : Nat) : QueueMove s (.acceptStep call) (s.acceptStep call) := by
  cases present : s.accepts[call]? with
  | none => simp only [acceptStep, present]; exact .still fun _ => rfl
  | some a =>
    obtain ⟨l, stage⟩ := a
    cases stage with
    | begun | entering =>
      simp only [acceptStep, present]
      exact .still (quietSetBell s l (Listener.Bell.take call)).waiting
    | leaving result =>
      simp only [acceptStep, present]
      exact .still (quietSetBell s l (Listener.Bell.leave call)).waiting
    | sleeping =>
      simp only [acceptStep, present]
      split
      · exact .still (quietSetBell s l (Listener.Bell.pass call)).waiting
      · exact .still fun _ => rfl
    | returned | cancelled => simp only [acceptStep, present]; exact .still fun _ => rfl
    | looking =>
      simp only [acceptStep, present]
      cases target : s.listeners[l]? with
      | none => exact .still fun _ => rfl
      | some L =>
        simp only [Listener.Queue.pop]
        cases items : L.queue.items with
        | nil => by_cases closed : L.queue.closed <;> simp only [closed] <;> exact .still fun _ => rfl
        | cons routed rest =>
          have waits : s.waiting l = routed :: rest := (waitingOfListener target).trans items
          exact .popped rfl present waits (waitingSetQueue target { L.queue with items := rest })
            ((acceptsSetAccept present _ call).trans (if_pos rfl))

theorem waitingCancelAccept (s : State) (call l : Nat) : (s.cancelAccept call).waiting l = s.waiting l := by
  unfold cancelAccept
  split
  · rfl
  · rename_i listener _
    exact (quietSetBell s listener (Listener.Bell.leave call)).waiting l
  · rfl

/- The moves of an accept call. Its result comes from one look at its queue and is never changed. -/
inductive AcceptMove (s t : State) (call : Nat) (e : Event) (l : Nat) : AcceptStage → AcceptStage → Prop where
  | rest {stage} : AcceptMove s t call e l stage stage
  | entered {stage} (event : e = .acceptStep call) (before : stage = .begun ∨ stage = .entering) :
      AcceptMove s t call e l stage .looking
  | popped {routed rest} (event : e = .acceptStep call) (waits : s.waiting l = routed :: rest)
      (shrunk : t.waiting l = rest) :
      AcceptMove s t call e l .looking (.leaving (.ok routed))
  | ended {L} (event : e = .acceptStep call) (target : s.listeners[l]? = some L) (drained : L.queue.items = [])
      (closed : L.queue.closed = true) : AcceptMove s t call e l .looking (.leaving (.error .listenerClosed))
  | slept {L} (event : e = .acceptStep call) (target : s.listeners[l]? = some L) (drained : L.queue.items = [])
      (isOpen : L.queue.closed = false) : AcceptMove s t call e l .looking .sleeping
  | returned {result} (event : e = .acceptStep call) : AcceptMove s t call e l (.leaving result) (.returned result)
  | woken (event : e = .acceptStep call) : AcceptMove s t call e l .sleeping .entering
  | cancelled {stage} (event : e = .cancelAccept call) (before : stage = .begun ∨ stage = .sleeping) :
      AcceptMove s t call e l stage .cancelled

theorem acceptStepMove {s : State} {call : Nat} {a : Accept} (found : s.accepts[call]? = some a) :
    ∃ stage, (s.acceptStep call).accepts = (s.setAccept call stage).accepts ∧
      AcceptMove s (s.acceptStep call) call (.acceptStep call) a.listener a.stage stage := by
  have still := acceptsSetSame found
  obtain ⟨l, stage⟩ := a
  cases stage with
  | begun => simp only [acceptStep, found]; exact ⟨_, rfl, .entered rfl (.inl rfl)⟩
  | entering => simp only [acceptStep, found]; exact ⟨_, rfl, .entered rfl (.inr rfl)⟩
  | looking =>
    simp only [acceptStep, found]
    cases target : s.listeners[l]? with
    | none => exact ⟨_, still.symm, .rest⟩
    | some L =>
      simp only [Listener.Queue.pop]
      cases items : L.queue.items with
      | nil =>
        cases closed : L.queue.closed with
        | true => exact ⟨_, rfl, .ended rfl target items closed⟩
        | false => exact ⟨_, rfl, .slept rfl target items closed⟩
      | cons routed rest =>
        have shrunk := waitingSetQueue target { L.queue with items := rest } l
        exact ⟨_, rfl, .popped rfl ((waitingOfListener target).trans items) (shrunk.trans (if_pos rfl))⟩
  | sleeping =>
    simp only [acceptStep, found]
    split
    · exact ⟨_, rfl, .woken rfl⟩
    · exact ⟨_, still.symm, .rest⟩
  | leaving result => simp only [acceptStep, found]; exact ⟨_, rfl, .returned rfl⟩
  | returned | cancelled => simp only [acceptStep, found]; exact ⟨_, still.symm, .rest⟩

theorem cancelAcceptMove {s : State} {call : Nat} {a : Accept} (found : s.accepts[call]? = some a) :
    ∃ stage, (s.cancelAccept call).accepts = (s.setAccept call stage).accepts ∧
      AcceptMove s (s.cancelAccept call) call (.cancelAccept call) a.listener a.stage stage := by
  have still := acceptsSetSame found
  obtain ⟨l, stage⟩ := a
  cases stage with
  | begun => simp only [cancelAccept, found]; exact ⟨_, rfl, .cancelled rfl (.inl rfl)⟩
  | sleeping => simp only [cancelAccept, found]; exact ⟨_, rfl, .cancelled rfl (.inr rfl)⟩
  | entering | looking | leaving | returned | cancelled =>
    simp only [cancelAccept, found]
    exact ⟨_, still.symm, .rest⟩

end SharedPort.Selector.State
