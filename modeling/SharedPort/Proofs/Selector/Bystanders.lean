import SharedPort.Proofs.Selector.Serves

/-! A serve call that never gets the source. It leaves no trace: with all its steps left out, a run comes to the same
state in everything else. -/
namespace SharedPort.Selector
open SharedPort.Stream (Attempt)

namespace State

def isServeOf (i : Nat) : Event → Bool
  | .serveStep j | .accepted j _ | .acceptFailed j _ | .cancelServe j => j = i
  | _ => false

def withoutCall (i : Nat) (events : List Event) : List Event := events.filter fun e => !isServeOf i e

section Unseen
variable {s : State} {i : Nat} {x : ServeStage}

theorem setServeSwap (s : State) {i j : Nat} (other : i ≠ j) (x y : ServeStage) :
    (s.setServe i x).setServe j y = (s.setServe j y).setServe i x := by
  simp only [setServe, List.set_comm _ _ other]

theorem setServeTwice (s : State) (i : Nat) (x y : ServeStage) : (s.setServe i x).setServe i y = s.setServe i y := by
  simp only [setServe, List.set_set]

theorem closeQueueUnseen (s : State) (l : Nat) :
    (s.setServe i x).closeQueue l = ((s.closeQueue l).1, (s.closeQueue l).2.setServe i x) := by
  cases found : s.listeners[l]? <;> simp [closeQueue, setServe, setListener, found]

theorem closeAdvanceUnseen (s : State) (stage : CloseStage) :
    (s.setServe i x).closeAdvance stage = ((s.closeAdvance stage).1, (s.closeAdvance stage).2.setServe i x) := by
  cases stage with
  | swapping =>
    cases closed : s.closed <;> simp [closeAdvance, setServe, closed]
  | taking =>
    cases parked : s.parked <;> simp [closeAdvance, setServe, parked]
  | closing left =>
    cases left with
    | nil => rfl
    | cons l left => simp only [closeAdvance, closeQueueUnseen]
  | signalling | closingSource | draining | ringing | returned => rfl

theorem serveStepUnseen {j : Nat} (other : i ≠ j) :
    (s.setServe i x).serveStep j = (s.serveStep j).setServe i x := by
  have same : (s.setServe i x).serves[j]? = s.serves[j]? := List.getElem?_set_ne other
  have parked : (s.setServe i x).parked = s.parked := rfl
  have closed : (s.setServe i x).closed = s.closed := rfl
  have signals : (s.setServe i x).signals = s.signals := rfl
  simp only [serveStep, same]
  cases s.serves[j]? with
  | none => rfl
  | some stage =>
    cases stage with
    | taking =>
      simp only [parked]
      split
      · exact setServeSwap { s with parked := false } other x .subscribing
      · exact setServeSwap s other x .withoutSource
    | withoutSource => exact setServeSwap s other x _
    | subscribing => exact setServeSwap s other x _
    | checking seen =>
      simp only [closed]
      split
      · exact setServeSwap s.dropSource other x _
      · exact setServeSwap s other x _
    | looping seen =>
      simp only [signals]
      split
      · exact setServeSwap s other x _
      · rfl
    | closingSource result => exact setServeSwap s.closeSource.dropSource other x _
    | closing step result =>
      cases step with
      | returned => exact setServeSwap s other x _
      | swapping | signalling | taking | closingSource | draining | closing | ringing =>
        simp only [closeAdvanceUnseen]
        exact setServeSwap _ other x _
    | aborting result =>
      dsimp only
      split
      · rename_i done
        rw [if_pos (show (s.abortWorkers j).isDone j = true from done)]
        exact setServeSwap (s.abortWorkers j) other x _
      · rename_i busy
        rw [if_neg (show ¬ (s.abortWorkers j).isDone j = true from busy)]
        rfl
    | returned | cancelled => rfl

theorem acceptingUnseen {j : Nat} (other : i ≠ j) : (s.setServe i x).isAccepting j = s.isAccepting j := by
  have same : (s.setServe i x).serves[j]? = s.serves[j]? := List.getElem?_set_ne other
  simp only [isAccepting, same]
  rfl

theorem cancelServeUnseen {j : Nat} (other : i ≠ j) :
    (s.setServe i x).cancelServe j = (s.cancelServe j).setServe i x := by
  have same : (s.setServe i x).serves[j]? = s.serves[j]? := List.getElem?_set_ne other
  simp only [cancelServe, same]
  cases s.serves[j]? with
  | none => rfl
  | some stage =>
    cases stage with
    | taking => exact setServeSwap s other x _
    | looping => exact setServeSwap (s.abortWorkers j).dropSource other x _
    | aborting => exact setServeSwap (s.abortWorkers j) other x _
    | withoutSource | subscribing | checking | closingSource | closing | returned | cancelled => rfl

theorem deliverUnseen (j : Nat) (arrival : Arrival) (header : Bytes) (l : Nat) :
    (s.setServe i x).deliver j arrival header l = (s.deliver j arrival header l).setServe i x := by
  unfold deliver
  cases found : s.listeners[l]? with
  | none => simp only [setServe, found]; rfl
  | some L =>
    simp only [setServe, found]
    split <;> rfl

theorem acceptedUnseen {j : Nat} (other : i ≠ j) (arrival : Arrival) :
    (s.setServe i x).accepted j arrival = (s.accepted j arrival).setServe i x := by
  simp only [accepted, acceptingUnseen other]
  split <;> rfl

theorem acceptFailedUnseen {j : Nat} (other : i ≠ j) (cause : Error) :
    (s.setServe i x).acceptFailed j cause = (s.acceptFailed j cause).setServe i x := by
  simp only [acceptFailed, acceptingUnseen other]
  split
  · cases endOfLoop cause with
    | none => rfl
    | some result => exact setServeSwap s other x _
  · rfl

theorem beginServeUnseen (present : i < s.serves.length) :
    (s.setServe i x).beginServe = s.beginServe.setServe i x := by
  simp only [beginServe, setServe, List.set_append_left _ _ present]

theorem registerUnseen (key : Bytes) :
    (s.setServe i x).register key = ((s.register key).1, (s.register key).2.setServe i x) := by
  have setup : (s.setServe i x).setup = s.setup := rfl
  have closed : (s.setServe i x).closed = s.closed := rfl
  have registry : (s.setServe i x).registry = s.registry := rfl
  have listeners : (s.setServe i x).listeners = s.listeners := rfl
  simp only [register, setup, closed, registry, listeners]
  split
  · simp only [*]
  · simp only [*]
    rfl

theorem registerDefaultUnseen :
    (s.setServe i x).registerDefault = (s.registerDefault.1, s.registerDefault.2.setServe i x) := by
  have closed : (s.setServe i x).closed = s.closed := rfl
  have registry : (s.setServe i x).registry = s.registry := rfl
  have listeners : (s.setServe i x).listeners = s.listeners := rfl
  simp only [registerDefault, closed, registry, listeners]
  split
  · simp only [*]
  · simp only [*]
    rfl

theorem unregisterUnseen (key : Bytes) :
    (s.setServe i x).unregister key = ((s.unregister key).1, (s.unregister key).2.setServe i x) := by
  simp only [unregister, setServe]
  split <;> rfl

theorem unregisterDefaultUnseen :
    (s.setServe i x).unregisterDefault = (s.unregisterDefault.1, s.unregisterDefault.2.setServe i x) := by
  simp only [unregisterDefault, setServe]
  split <;> rfl

theorem listenerCloseStepUnseen (call : Nat) :
    (s.setServe i x).listenerCloseStep call = (s.listenerCloseStep call).setServe i x := by
  have same : (s.setServe i x).listenerCloses[call]? = s.listenerCloses[call]? := rfl
  simp only [listenerCloseStep, same]
  split
  · simp only [closeQueueUnseen]
    rfl
  · rfl
  · rfl

theorem closeStepUnseen (call : Nat) : (s.setServe i x).closeStep call = (s.closeStep call).setServe i x := by
  have same : (s.setServe i x).closes[call]? = s.closes[call]? := rfl
  simp only [closeStep, same]
  split
  · rfl
  · simp only [closeAdvanceUnseen]
    rfl

theorem workerReadUnseen (j : Nat) (attempt : Attempt Bytes) :
    (s.setServe i x).workerRead j attempt = (s.workerRead j attempt).setServe i x := by
  have same : (s.setServe i x).workers[j]? = s.workers[j]? := rfl
  simp only [workerRead, same]
  split
  · split
    · split <;> rfl
    · rfl
  · rfl

theorem workerTimeoutUnseen (j : Nat) : (s.setServe i x).workerTimeout j = (s.workerTimeout j).setServe i x := by
  have same : (s.setServe i x).isOverdue j = s.isOverdue j := rfl
  simp only [workerTimeout, same]
  split <;> rfl

theorem workerStepUnseen (j : Nat) : (s.setServe i x).workerStep j = (s.workerStep j).setServe i x := by
  have same : (s.setServe i x).workers[j]? = s.workers[j]? := rfl
  have setup : (s.setServe i x).setup = s.setup := rfl
  have registry : (s.setServe i x).registry = s.registry := rfl
  simp only [workerStep, same]
  split
  · simp only [registry, setup]
    split <;> rfl
  · exact deliverUnseen j _ _ _
  · rfl
  · rfl

theorem acceptStepUnseen (call : Nat) : (s.setServe i x).acceptStep call = (s.acceptStep call).setServe i x := by
  have same : (s.setServe i x).accepts[call]? = s.accepts[call]? := rfl
  have listeners : (s.setServe i x).listeners = s.listeners := rfl
  simp only [acceptStep, same, listeners]
  split
  · rfl
  · rfl
  · split
    · rfl
    · split <;> rfl
  · rfl
  · split <;> rfl
  · rfl

theorem cancelAcceptUnseen (call : Nat) :
    (s.setServe i x).cancelAccept call = (s.cancelAccept call).setServe i x := by
  simp only [cancelAccept, setServe]
  split <;> rfl

theorem applyUnseen {e : Event} (present : i < s.serves.length) (foreign : isServeOf i e = false) :
    (s.setServe i x).apply e = (s.apply e).setServe i x := by
  have other {j : Nat} (called : isServeOf i e = decide (j = i)) : i ≠ j := fun same =>
    Bool.eq_false_iff.mp foreign (called.trans (decide_eq_true same.symm))
  cases e with
  | serveStep j => exact serveStepUnseen (other rfl)
  | cancelServe j => exact cancelServeUnseen (other rfl)
  | accepted j arrival => exact acceptedUnseen (other rfl) arrival
  | acceptFailed j cause => exact acceptFailedUnseen (other rfl) cause
  | beginServe => exact beginServeUnseen present
  | register key => exact congrArg Prod.snd (registerUnseen key)
  | registerDefault => exact congrArg Prod.snd registerDefaultUnseen
  | unregister key => exact congrArg Prod.snd (unregisterUnseen key)
  | unregisterDefault => exact congrArg Prod.snd unregisterDefaultUnseen
  | listenerCloseStep call => exact listenerCloseStepUnseen call
  | closeStep call => exact closeStepUnseen call
  | workerRead j attempt => exact workerReadUnseen j attempt
  | workerTimeout j => exact workerTimeoutUnseen j
  | workerStep j => exact workerStepUnseen j
  | acceptStep call => exact acceptStepUnseen call
  | cancelAccept call => exact cancelAcceptUnseen call
  | beginListenerClose | beginClose | beginAccept | advance => rfl

end Unseen

/- The stages of a call that came too late for the source. -/
def Missed (stage : ServeStage) : Prop := stage = .withoutSource ∨ ∃ result, stage = .returned result

theorem ownMissed {u : State} {i : Nat} {x : ServeStage} {e : Event} (present : i < u.serves.length) (missed : Missed x)
    (own : isServeOf i e = true) : ∃ y, Missed y ∧ (u.setServe i x).apply e = u.setServe i y := by
  have found : (u.setServe i x).serves[i]? = some x := List.getElem?_set_self present
  have still (same : (u.setServe i x).apply e = u.setServe i x) :
      ∃ y, Missed y ∧ (u.setServe i x).apply e = u.setServe i y := ⟨x, missed, same⟩
  cases e with
  | serveStep j =>
    obtain rfl : j = i := by simpa [isServeOf] using own
    rcases missed with rfl | ⟨result, rfl⟩
    · refine ⟨.returned (if u.closed then .ok () else .error .alreadyServing), .inr ⟨_, rfl⟩, ?_⟩
      simp only [apply, serveStep, found]
      exact setServeTwice u j _ _
    · exact still (by simp only [apply, serveStep, found])
  | accepted j arrival =>
    obtain rfl : j = i := by simpa [isServeOf] using own
    refine still ?_
    rcases missed with rfl | ⟨result, rfl⟩ <;> simp [apply, accepted, isAccepting, found]
  | acceptFailed j cause =>
    obtain rfl : j = i := by simpa [isServeOf] using own
    refine still ?_
    rcases missed with rfl | ⟨result, rfl⟩ <;> simp [apply, acceptFailed, isAccepting, found]
  | cancelServe j =>
    obtain rfl : j = i := by simpa [isServeOf] using own
    refine still ?_
    rcases missed with rfl | ⟨result, rfl⟩ <;> simp only [apply, cancelServe, found]
  | _ => simp [isServeOf] at own

theorem servesLength (s : State) (e : Event) : s.serves.length ≤ (s.apply e).serves.length := by
  cases servesMove s e with
  | same serves => exact Nat.le_of_eq (congrArg _ serves.symm)
  | began _ serves => simp [serves]
  | turned _ _ serves => simp [serves]

theorem servesLengthRun (s : State) (events : List Event) : s.serves.length ≤ (s.run events).serves.length := by
  induction events generalizing s with
  | nil => exact Nat.le_refl _
  | cons e rest ih => exact Nat.le_trans (servesLength s e) (ih (s.apply e))

theorem missedRun {u : State} {i : Nat} {x : ServeStage} (present : i < u.serves.length) (missed : Missed x)
    (more : List Event) : ∃ y, Missed y ∧ (u.setServe i x).run more = (u.run (withoutCall i more)).setServe i y := by
  induction more generalizing u x with
  | nil => exact ⟨x, missed, rfl⟩
  | cons e rest ih =>
    cases own : isServeOf i e with
    | true =>
      obtain ⟨y, still, same⟩ := ownMissed present missed own
      obtain ⟨z, last, run⟩ := ih present still
      refine ⟨z, last, ?_⟩
      simpa [withoutCall, own, State.run, same] using run
    | false =>
      obtain ⟨z, last, run⟩ := ih (Nat.lt_of_lt_of_le present (servesLength u e)) missed
      refine ⟨z, last, ?_⟩
      simpa [withoutCall, own, State.run, applyUnseen present own] using run

theorem runWithout {s : State} {i : Nat} {events : List Event} (e : Event) :
    s.run (withoutCall i (events ++ [e])) =
      if isServeOf i e then s.run (withoutCall i events) else (s.run (withoutCall i events)).apply e := by
  cases own : isServeOf i e <;> simp [withoutCall, own, runSnoc]

theorem ownAbsent {s : State} {i : Nat} {e : Event} (absent : s.serves[i]? = none) (own : isServeOf i e = true) :
    s.apply e = s := by
  cases e with
  | serveStep j =>
    obtain rfl : j = i := by simpa [isServeOf] using own
    exact noServeStep absent
  | accepted j arrival =>
    obtain rfl : j = i := by simpa [isServeOf] using own
    simp [apply, accepted, isAccepting, absent]
  | acceptFailed j cause =>
    obtain rfl : j = i := by simpa [isServeOf] using own
    exact noAcceptFailed absent cause
  | cancelServe j =>
    obtain rfl : j = i := by simpa [isServeOf] using own
    exact noCancelServe absent
  | _ => simp [isServeOf] at own

theorem ownUnbegun {s : State} {i : Nat} {e : Event} (found : s.serves[i]? = some .taking)
    (own : isServeOf i e = true) (still : (s.apply e).serves[i]? = some .taking) : s.apply e = s := by
  cases e with
  | serveStep j =>
    obtain rfl : j = i := by simpa [isServeOf] using own
    obtain ⟨next, turned, turn⟩ := serveTurn (.serveStep j) found
    obtain rfl : next = .taking := Option.some.inj (turned.symm.trans still)
    cases turn with
    | rest rests => cases rests rfl
  | accepted j arrival =>
    obtain rfl : j = i := by simpa [isServeOf] using own
    simp [apply, accepted, isAccepting, found]
  | acceptFailed j cause =>
    obtain rfl : j = i := by simpa [isServeOf] using own
    simp [apply, acceptFailed, isAccepting, found]
  | cancelServe j =>
    obtain rfl : j = i := by simpa [isServeOf] using own
    simp [apply, cancelServe, found, setServe, foundSet found] at still
  | _ => simp [isServeOf] at own

/- Until a call makes its first step, all that is done to it is in vain. -/
theorem unbegunRun {s : State} {i : Nat} {events : List Event}
    (here : (s.run events).serves[i]? = none ∨ (s.run events).serves[i]? = some .taking) :
    s.run events = s.run (withoutCall i events) := by
  induction events using List.reverseRecOn with
  | nil => rfl
  | append_singleton events e ih =>
    rw [runSnoc] at here ⊢
    rw [runWithout]
    have idle (before : s.run events = s.run (withoutCall i events))
        (vain : isServeOf i e = true → (s.run events).apply e = s.run events) :
        (s.run events).apply e =
          if isServeOf i e then s.run (withoutCall i events) else (s.run (withoutCall i events)).apply e := by
      rw [← before]
      split
      · rename_i own
        exact vain own
      · rfl
    cases found : (s.run events).serves[i]? with
    | none => exact idle (ih (.inl found)) (ownAbsent found)
    | some stage =>
      obtain ⟨next, turned, turn⟩ := serveTurn e found
      rw [turned] at here
      obtain rfl : next = .taking := by simpa using here
      cases turn with
      | rest => exact idle (ih (.inr found)) fun own => ownUnbegun found own turned

theorem missedSource {s : State} {i : Nat} (fresh : s.serves[i]? = none) {events : List Event}
    (here : (s.run events).serves[i]? = some .withoutSource) :
    i < (s.run (withoutCall i events)).serves.length ∧
      s.run events = (s.run (withoutCall i events)).setServe i .withoutSource := by
  induction events using List.reverseRecOn with
  | nil => cases fresh.symm.trans here
  | append_singleton events e ih =>
    rw [runSnoc] at here ⊢
    rw [runWithout]
    cases found : (s.run events).serves[i]? with
    | none => cases (servesNew found here).2
    | some stage =>
      obtain ⟨next, turned, turn⟩ := serveTurn e found
      obtain rfl : next = .withoutSource := Option.some.inj (turned.symm.trans here)
      cases turn with
      | missed event gone =>
        have before := unbegunRun (.inr found)
        rw [if_pos (by simp [event, isServeOf]), ← before, event]
        exact ⟨(List.getElem?_eq_some_iff.mp found).1, by simp [apply, serveStep, found, gone]⟩
      | rest =>
        obtain ⟨present, same⟩ := ih found
        rw [same] at turned ⊢
        cases own : isServeOf i e with
        | true =>
          obtain ⟨y, _, next⟩ := ownMissed present (.inl rfl) own
          rw [next, setServe, List.getElem?_set_self present] at turned
          rw [if_pos rfl, next, Option.some.inj turned]
          exact ⟨present, rfl⟩
        | false =>
          rw [if_neg Bool.false_ne_true]
          exact ⟨Nat.lt_of_lt_of_le present (servesLength _ e), applyUnseen present own⟩

/- A call that found the source gone leaves everything as it would be if it had never made a step. -/
theorem leavesNoTrace {s : State} {i : Nat} (fresh : s.serves[i]? = none) {before : List Event}
    (here : (s.run before).serves[i]? = some .withoutSource) (more : List Event) :
    ∃ stage, Missed stage ∧ (s.run (before ++ more)).serves[i]? = some stage ∧
      s.run (before ++ more) = (s.run (withoutCall i (before ++ more))).setServe i stage := by
  obtain ⟨present, same⟩ := missedSource fresh here
  obtain ⟨y, missed, run⟩ := missedRun present (.inl rfl) more
  rw [← same, ← runAppend, ← runAppend] at run
  have whole : s.run (before ++ more) = (s.run (withoutCall i (before ++ more))).setServe i y := by
    simpa [withoutCall] using run
  have still : i < (s.run (withoutCall i (before ++ more))).serves.length := by
    rw [withoutCall, List.filter_append, runAppend]
    exact Nat.lt_of_lt_of_le present (servesLengthRun _ _)
  refine ⟨y, missed, ?_, whole⟩
  rw [whole]
  exact List.getElem?_set_self still

end State
end SharedPort.Selector
