import Mathlib.Data.Prod.Lex
import SharedPort.Proofs.Progress
import SharedPort.Proofs.Selector.AcceptLoop

/-! A serve call whose loop has ended returns, if it and its workers go on getting their turns. It goes through its
close, drops the workers that still read, and waits for the others, each of which is done within three steps. -/
namespace SharedPort.Selector
open SharedPort.Progress (Nears)

def CloseStage.toGo : CloseStage → Nat × Nat
  | .swapping => (7, 0)
  | .signalling => (6, 0)
  | .taking => (5, 0)
  | .closingSource => (4, 0)
  | .draining => (3, 0)
  | .closing left => (2, 2 * left.length)
  | .ringing _ left => (2, 2 * left.length + 1)
  | .returned => (1, 0)

def ServeStage.toWait : ServeStage → Nat × Nat
  | .looping _ => (9, 0)
  | .closingSource _ => (8, 0)
  | .closing stage _ => stage.toGo
  | .taking | .withoutSource | .subscribing | .checking _ | .aborting _ | .returned _ | .cancelled => (0, 0)

def WorkerStage.toSettle : WorkerStage → Nat
  | .peeking .. => 4
  | .peeked _ => 3
  | .found .. => 2
  | .ringing _ => 1
  | .settled _ => 0

def WorkerStage.isReading : WorkerStage → Bool
  | .peeking .. => true
  | _ => false

namespace State

def follow (s : State) (schedule : Nat → Event) : Nat → State
  | 0 => s
  | n + 1 => (follow s schedule n).apply (schedule n)

inductive Duty
  | serve
  | worker (number : Nat)
  deriving DecidableEq

def duty (i : Nat) : Event → Option Duty
  | .serveStep j => if j = i then some .serve else none
  | .workerStep j => some (.worker j)
  | _ => none

def shorter : Nat × Nat → Nat × Nat → Prop := Prod.Lex (· < ·) (· < ·)

theorem shorterFounded : WellFounded shorter := WellFoundedRelation.wf

theorem advanceShortens (s : State) {stage : CloseStage} (under : stage ≠ .returned) :
    shorter (s.closeAdvance stage).1.toGo stage.toGo := by
  cases stage with
  | swapping | taking =>
    unfold closeAdvance
    dsimp only
    split <;> exact .left _ _ (by decide)
  | signalling | closingSource | draining => exact .left _ _ (by decide)
  | closing left =>
    cases left with
    | nil => exact .left _ _ (by decide)
    | cons l left =>
      unfold closeAdvance
      dsimp only [List.length_cons]
      split <;> exact .right _ (by simp [List.length_cons]; try omega)
  | ringing l left => exact .right _ (by simp)
  | returned => exact (under rfl).elim

theorem dutyServe {i : Nat} {e : Event} (serves : duty i e = some .serve) : e = .serveStep i := by
  cases e with
  | serveStep j =>
    simp only [duty, Option.ite_none_right_eq_some] at serves
    rw [serves.1]
  | _ => cases serves

theorem dutyWorker {i j : Nat} {e : Event} (works : duty i e = some (.worker j)) : e = .workerStep j := by
  cases e with
  | workerStep k => cases works; rfl
  | serveStep k =>
    simp only [duty, Option.ite_none_right_eq_some] at works
    cases works.2
  | _ => cases works

/- A call that will have closed everything, and return `result`. -/
inductive OnTheWay (s : State) (result : Except Error Unit) : ServeStage → Prop where
  | looping {seen} (unheard : seen < s.signals) (signalled : result = .ok ()) : OnTheWay s result (.looping seen)
  | closingSource : OnTheWay s result (.closingSource result)
  | closing {stage} : OnTheWay s result (.closing stage result)

def Closing (i : Nat) (result : Except Error Unit) (r : Nat × Nat) (d : Duty) (s : State) : Prop :=
  d = .serve ∧ ∃ stage, s.serves[i]? = some stage ∧ stage.toWait = r ∧ OnTheWay s result stage

def Waiting (i : Nat) (result : Except Error Unit) (s : State) : Prop := s.serves[i]? = some (.aborting result)

theorem closingNears {s : State} {i : Nat} {result : Except Error Unit} {r : Nat × Nat} {d : Duty} {e : Event}
    (kept : e ≠ .cancelServe i) (closing : Closing i result r d s) :
    Nears shorter (Closing i result) (Waiting i result) (duty i e) (s.apply e) r d := by
  obtain ⟨rfl, stage, found, rfl, onTheWay⟩ := closing
  obtain ⟨next, turned, turn⟩ := serveTurn e found
  have other (busy : ¬ Rests s i stage) (own : e = .serveStep i → Rests s i stage) : duty i e ≠ some .serve :=
    fun serves => busy (own (dutyServe serves))
  cases turn with
  | cancelled event => exact (kept event).elim
  | rest own =>
    cases onTheWay with
    | looping unheard signalled =>
      refine .rest (other (fun | .listening quiet => Nat.not_lt.mpr quiet unheard) own) ⟨rfl, _, turned, rfl, ?_⟩
      exact .looping (Nat.lt_of_lt_of_le unheard (signalsGrow s e)) signalled
    | closingSource => exact .rest (other nofun own) ⟨rfl, _, turned, rfl, .closingSource⟩
    | closing => exact .rest (other nofun own) ⟨rfl, _, turned, rfl, .closing⟩
  | heard =>
    cases onTheWay with
    | looping _ signalled =>
      subst signalled
      exact .nearer (.left _ _ (by decide)) ⟨rfl, _, turned, rfl, .closingSource⟩
  | failed _ quiet =>
    cases onTheWay with
    | looping unheard => exact absurd unheard (Nat.not_lt.mpr quiet)
  | letGo =>
    cases onTheWay with
    | closingSource => exact .nearer (.left _ _ (by decide)) ⟨rfl, _, turned, rfl, .closing⟩
  | went _ under =>
    cases onTheWay with
    | closing => exact .nearer (advanceShortens s under) ⟨rfl, _, turned, rfl, .closing⟩
  | through =>
    cases onTheWay with
    | closing => exact .reached turned
  | took | missed | answered | subscribed | foundShut | entered | ended => cases onTheWay

theorem workerGoesOn {s : State} {j : Nat} {w : Worker} (found : s.workers[j]? = some w)
    (busy : w.stage.isReading = false) (under : isSettled w = false) :
    ∃ next, (s.workerStep j).workers[j]? = some { w with stage := next } ∧ next.toSettle < w.stage.toSettle := by
  obtain ⟨arrival, owner, deadline, stage⟩ := w
  cases stage with
  | peeking => cases busy
  | settled => cases under
  | peeked header =>
    simp only [workerStep, found]
    split <;> exact ⟨_, (steppedSetWorker found rfl).own, by simp [WorkerStage.toSettle]⟩
  | found header l =>
    simp only [workerStep, found]
    unfold deliver
    split
    · exact ⟨_, (steppedSetWorker found rfl).own, by simp [WorkerStage.toSettle]⟩
    · split <;> exact ⟨_, (steppedSetWorker found rfl).own, by simp [WorkerStage.toSettle]⟩
  | ringing l =>
    simp only [workerStep, found]
    exact ⟨_, (steppedSetWorker found rfl).own, by simp [WorkerStage.toSettle]⟩

theorem settlesOn {s t : State} {j : Nat} {e : Event} {stage next : WorkerStage} (move : WorkerMove s t j e stage next) :
    next.toSettle < stage.toSettle ∨ next.toSettle = stage.toSettle ∧ next.isReading = stage.isReading := by
  cases move with
  | rest | fed => exact .inr ⟨rfl, rfl⟩
  | filled | lost | aborted | routed | astray | pushed | refused | vanished | rung =>
    exact .inl (by simp [WorkerStage.toSettle])

theorem dropsReading {s : State} {i j : Nat} {w : Worker} {result : Except Error Unit}
    (waiting : s.serves[i]? = some (.aborting result)) (found : s.workers[j]? = some w) (mine : w.owner = i)
    (reading : w.stage.isReading = true) :
    (s.serveStep i).workers[j]? = some { w with stage := .settled .aborted } := by
  have workers : (s.serveStep i).workers = (s.abortWorkers i).workers := by
    simp only [serveStep, waiting]
    split <;> rfl
  obtain ⟨_, owner, _, stage⟩ := w
  subst mine
  cases stage with
  | peeking => simp [workers, abortWorkers, found]
  | peeked | found | ringing | settled => cases reading

def Unsettled (i j : Nat) (result : Except Error Unit) (r : Nat) (d : Duty) (s : State) : Prop :=
  Served s i (.aborting result) ∧ ∃ w, s.workers[j]? = some w ∧ isSettled w = false ∧ w.stage.toSettle = r ∧
    d = if w.stage.isReading then .serve else .worker j

def SettledAt (j : Nat) (s : State) : Prop := ∃ w, s.workers[j]? = some w ∧ isSettled w = true

theorem waitingTurn {s : State} {i : Nat} {e : Event} {result : Except Error Unit} {leftOpen : Prop}
    (closable : Closable s) (custody : Custody s leftOpen) (served : Served s i (.aborting result))
    (kept : e ≠ .cancelServe i) :
    Served (s.apply e) i (.aborting result) ∨ Served (s.apply e) i (.returned result) := by
  obtain ⟨next, onward, turn⟩ := servedApply closable custody served kept
  cases turn with
  | rest => exact .inl onward
  | ended => exact .inr onward
  | cancelled event => exact (kept event).elim

theorem unsettledNears {s : State} {i j : Nat} {result : Except Error Unit} {r : Nat} {d : Duty} {e : Event}
    {leftOpen : Prop} (closable : Closable s) (custody : Custody s leftOpen) (kept : e ≠ .cancelServe i)
    (unsettled : Unsettled i j result r d s) :
    Nears (· < ·) (Unsettled i j result) (fun t => Served t i (.returned result) ∨ SettledAt j t) (duty i e) (s.apply e)
      r d := by
  obtain ⟨served, w, found, under, rfl, rfl⟩ := unsettled
  obtain ⟨next, moved, move⟩ := workerMoves e found
  rcases waitingTurn closable custody served kept with waiting | returned
  · by_cases settled : isSettled { w with stage := next } = true
    · exact .reached (.inr ⟨_, moved, settled⟩)
    · have notYet := Bool.eq_false_iff.mpr settled
      rcases settlesOn move with lower | ⟨same, reads⟩
      · exact .nearer lower ⟨waiting, _, moved, notYet, rfl, rfl⟩
      · refine .rest (fun due => ?_) ⟨waiting, _, moved, notYet, same, by rw [reads]⟩
        cases reading : w.stage.isReading with
        | true =>
          rw [reading, if_pos rfl] at due
          obtain rfl := dutyServe due
          have mine := served.alone.workers w (List.mem_of_getElem? found)
          obtain same := Option.some.inj (moved.symm.trans (dropsReading served.found found mine reading))
          rw [same] at notYet
          cases notYet
        | false =>
          simp only [reading, Bool.false_eq_true, if_false] at due
          obtain rfl := dutyWorker due
          obtain ⟨last, stepped, lower⟩ := workerGoesOn found reading under
          have stage := congrArg Worker.stage (Option.some.inj (moved.symm.trans stepped))
          rw [show next = last from stage] at same
          omega
  · exact .reached (.inl returned)

theorem returnsSettled {s : State} {i : Nat} {result : Except Error Unit}
    (waiting : s.serves[i]? = some (.aborting result)) (settled : ∀ w ∈ s.workers, isSettled w = true) :
    (s.serveStep i).serves[i]? = some (.returned result) := by
  have done : (s.abortWorkers i).isDone i = true := by
    refine List.all_eq_true.mpr fun w member => ?_
    obtain ⟨v, before, rfl⟩ := List.mem_map.mp member
    obtain ⟨fate, stage⟩ := settledStage (settled v before)
    simp [stage, isSettled]
  simp only [serveStep, waiting, done, if_true]
  exact foundSet waiting _

theorem settledAtStays {s : State} {j : Nat} (settled : SettledAt j s) (e : Event) : SettledAt j (s.apply e) := by
  obtain ⟨w, found, done⟩ := settled
  obtain ⟨fate, stage⟩ := settledStage done
  exact ⟨w, settledRun found stage [e], done⟩

structure Orderly (s : State) : Prop where
  closable : Closable s
  custody : ∃ leftOpen, Custody s leftOpen

theorem orderlyApply {s : State} (orderly : Orderly s) (e : Event) : Orderly (s.apply e) := by
  obtain ⟨closable, leftOpen, custody⟩ := orderly
  exact ⟨closableMove closable (closerMove s e), _, custodyMove custody e⟩

section Turns
variable {s : State} {i : Nat} {schedule : Nat → Event} {result : Except Error Unit} (orderly : Orderly s)
  (kept : ∀ n, schedule n ≠ .cancelServe i) (fair : Progress.Fair fun n => duty i (schedule n))

include orderly in
theorem orderlyFollow (n : Nat) : Orderly (s.follow schedule n) := by
  induction n with
  | zero => exact orderly
  | succ n ih => exact orderlyApply ih (schedule n)

include orderly kept in
theorem servedFollow {stage : ServeStage} (served : Served s i stage) (n : Nat) :
    ∃ now, Served (s.follow schedule n) i now := by
  induction n with
  | zero => exact ⟨stage, served⟩
  | succ n ih =>
    obtain ⟨now, here⟩ := ih
    obtain ⟨closable, leftOpen, custody⟩ := orderlyFollow orderly n
    obtain ⟨next, onward, _⟩ := servedApply closable custody here (kept n)
    exact ⟨next, onward⟩

/- The call waits for its `n` workers or has returned, and the first `k` of them are settled. -/
structure Leaving (i : Nat) (result : Except Error Unit) (n k : Nat) (s : State) : Prop where
  served : Served s i (.aborting result) ∨ Served s i (.returned result)
  length : s.workers.length = n
  settled : ∀ j < k, j < n → SettledAt j s

include orderly kept in
theorem leavingStays {n k : Nat} (m : Nat) (leaving : Leaving i result n k (s.follow schedule m)) :
    Leaving i result n k (s.follow schedule (m + 1)) := by
  obtain ⟨closable, leftOpen, custody⟩ := orderlyFollow orderly m
  obtain ⟨served, length, settled⟩ := leaving
  have alone : Alone (s.follow schedule m) i := served.elim Served.alone Served.alone
  have deaf : (s.follow schedule m).isAccepting i = false := by
    rcases served with here | here <;> simp [isAccepting, here.found]
  have arrivals := congrArg List.length (sameArrivals (e := schedule m) alone deaf)
  refine ⟨?_, ?_, fun j below present => settledAtStays (settled j below present) (schedule m)⟩
  · rcases served with waiting | returned
    · exact waitingTurn closable custody waiting (kept m)
    · obtain ⟨next, onward, turn⟩ := servedApply closable custody returned (kept m)
      cases turn with
      | rest => exact .inr onward
      | cancelled event => exact (kept m event).elim
  · rw [List.length_map, List.length_map] at arrivals
    exact arrivals.trans length

include orderly kept fair in
theorem workerSettles {n j : Nat} (waiting : Served (s.follow schedule n) i (.aborting result))
    (present : j < (s.follow schedule n).workers.length) :
    ∃ m, n ≤ m ∧ (Served (s.follow schedule m) i (.returned result) ∨ SettledAt j (s.follow schedule m)) := by
  have found := List.getElem?_eq_getElem present
  by_cases settled : isSettled (s.follow schedule n).workers[j] = true
  · exact ⟨n, Nat.le_refl n, .inr ⟨_, found, settled⟩⟩
  · have unsettled : Unsettled i j result _ _ (s.follow schedule n) :=
      ⟨waiting, _, found, Bool.eq_false_iff.mpr settled, rfl, rfl⟩
    have nears (r : Nat) (d : Duty) (n : Nat) (here : Unsettled i j result r d (s.follow schedule n)) :=
      have ⟨closable, _, custody⟩ := orderlyFollow orderly n
      unsettledNears closable custody (kept n) here
    exact Progress.reached Nat.lt_wfRel.wf fair nears _ _ n unsettled

include orderly kept fair in
theorem allSettle {n m : Nat} (leaving : Leaving i result n 0 (s.follow schedule m)) (k : Nat) :
    ∃ m', m ≤ m' ∧ (Served (s.follow schedule m') i (.returned result) ∨ Leaving i result n k (s.follow schedule m')) := by
  induction k with
  | zero => exact ⟨m, Nat.le_refl m, .inr leaving⟩
  | succ k ih =>
    obtain ⟨before, later, returned | here⟩ := ih
    · exact ⟨before, later, .inl returned⟩
    · have onward (m' : Nat) (latest : before ≤ m') (last : k < n → SettledAt k (s.follow schedule m')) :
          Leaving i result n (k + 1) (s.follow schedule m') := by
        obtain ⟨served, length, settled⟩ := Progress.keptFrom (leavingStays orderly kept) latest here
        refine ⟨served, length, fun j below present => ?_⟩
        rcases Nat.lt_succ_iff_lt_or_eq.mp below with earlier | rfl
        · exact settled j earlier present
        · exact last present
      rcases here.served with waiting | returned
      · by_cases present : k < n
        · obtain ⟨m', latest, returned | last⟩ := workerSettles orderly kept fair waiting (here.length ▸ present)
          · exact ⟨m', Nat.le_trans later latest, .inl returned⟩
          · exact ⟨m', Nat.le_trans later latest, .inr (onward m' latest fun _ => last)⟩
        · exact ⟨before, later, .inr (onward before (Nat.le_refl _) fun last => (present last).elim)⟩
      · exact ⟨before, later, .inl returned⟩

include orderly kept fair in
theorem leavesAtLast {n : Nat} (waiting : Served (s.follow schedule n) i (.aborting result)) :
    ∃ m, (s.follow schedule m).serves[i]? = some (.returned result) := by
  have leaving : Leaving i result (s.follow schedule n).workers.length 0 (s.follow schedule n) :=
    ⟨.inl waiting, rfl, nofun⟩
  obtain ⟨m, _, returned | here⟩ := allSettle orderly kept fair leaving (s.follow schedule n).workers.length
  · exact ⟨m, returned.found⟩
  · obtain ⟨m', later, due⟩ := fair .serve m
    obtain ⟨served, length, settled⟩ := Progress.keptFrom (leavingStays orderly kept) later here
    rcases served with still | returned
    · refine ⟨m' + 1, ?_⟩
      have event : schedule m' = .serveStep i := dutyServe due
      rw [follow, event]
      refine returnsSettled still.found fun w member => ?_
      obtain ⟨j, found⟩ := List.mem_iff_getElem?.mp member
      have present := length ▸ (List.getElem?_eq_some_iff.mp found).1
      obtain ⟨v, same, done⟩ := settled j present present
      obtain rfl := Option.some.inj (same.symm.trans found)
      exact done
    · exact ⟨m', returned.found⟩

include orderly kept fair in
theorem returnsAtLast {stage : ServeStage} (served : Served s i stage) (onTheWay : OnTheWay s result stage) :
    ∃ m, (s.follow schedule m).serves[i]? = some (.returned result) := by
  have closing : Closing i result stage.toWait .serve (s.follow schedule 0) := ⟨rfl, stage, served.found, rfl, onTheWay⟩
  obtain ⟨n, _, waiting⟩ := Progress.reached shorterFounded fair (fun r d n => closingNears (kept n)) _ _ 0 closing
  obtain ⟨now, here⟩ := servedFollow orderly kept served n
  obtain rfl : now = .aborting result := Option.some.inj (here.found.symm.trans waiting)
  exact leavesAtLast orderly kept fair here

end Turns

end State
end SharedPort.Selector
