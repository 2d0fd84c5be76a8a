import SharedPort.Proofs.Selector.OneLoop

/-! Who has the source serves alone: all workers read for that call, and every other serve call has not reached for the
source, has missed it, or is over. The one has the source until it closes it, has closed the selector when it begins to
wait for its workers, and returns when all of them are settled. -/
namespace SharedPort.Selector

/- A serve call that has had no part in serving, or has none any more. -/
def ServeStage.isAway : ServeStage → Bool
  | .taking | .withoutSource | .returned _ | .cancelled => true
  | .subscribing | .checking _ | .looping _ | .closingSource _ | .closing .. | .aborting _ => false

theorem ServeStage.idleAway {stage : ServeStage} (idle : stage.isIdle = true) : stage.isAway = true := by
  cases stage <;> first | rfl | cases idle

theorem ServeStage.awayCloses {stage : ServeStage} (away : stage.isAway = true) : stage.close? = none := by
  cases stage <;> first | rfl | cases away

namespace State

structure Alone (s : State) (i : Nat) : Prop where
  workers : ∀ w ∈ s.workers, w.owner = i
  others : ∀ (j : Nat) (stage : ServeStage), j ≠ i → s.serves[j]? = some stage → stage.isAway = true

theorem joinsAccepting {s : State} {e : Event} {w : Worker} (joined : w ∈ s.joins e) :
    s.isAccepting w.owner = true := by
  cases e with
  | accepted call arrival =>
    simp only [joins] at joined
    split at joined
    · rename_i accepting
      rw [List.mem_singleton.mp joined]
      exact accepting
    · cases joined
  | _ => cases joined

theorem workerBefore {s : State} {e : Event} {w : Worker} {j : Nat} (found : (s.apply e).workers[j]? = some w) :
    (∃ v, s.workers[j]? = some v ∧ v.owner = w.owner) ∨ s.isAccepting w.owner = true := by
  cases before : s.workers[j]? with
  | some v =>
    obtain ⟨stage, next, _⟩ := workerMoves e before
    obtain rfl := Option.some.inj (next.symm.trans found)
    exact .inl ⟨v, rfl, rfl⟩
  | none => exact .inr (joinsAccepting (List.mem_of_getElem? (workersNew e before ▸ found)))

theorem acceptingLoops {s : State} {i : Nat} (accepting : s.isAccepting i = true) :
    ∃ seen, s.serves[i]? = some (.looping seen) ∧ s.signals ≤ seen := by
  unfold isAccepting at accepting
  split at accepting
  · rename_i seen found
    exact ⟨seen, found, by simpa using accepting⟩
  · cases accepting

/- Once the source is taken, another call stays away from it. -/
theorem awayTurn {s : State} {e : Event} {j : Nat} {stage next : ServeStage} (taken : s.parked = false)
    (away : stage.isAway = true) (turn : ServeTurn s e j stage next) : next.isAway = true := by
  cases turn with
  | rest => exact away
  | took _ waited => simp [taken] at waited
  | missed | answered | cancelled => rfl
  | subscribed | foundShut | entered | heard | failed | letGo | went | through | ended => cases away

theorem aloneApply {s : State} {i : Nat} (alone : Alone s i) (taken : s.parked = false) (e : Event) :
    Alone (s.apply e) i := by
  refine ⟨fun w member => ?_, fun j next other after => ?_⟩
  · obtain ⟨n, found⟩ := List.mem_iff_getElem?.mp member
    rcases workerBefore found with ⟨v, before, same⟩ | accepting
    · exact same.symm.trans (alone.workers v (List.mem_of_getElem? before))
    · obtain ⟨seen, loops, -⟩ := acceptingLoops accepting
      refine Decidable.byContradiction fun other => ?_
      cases alone.others _ _ other loops
  · cases before : s.serves[j]? with
    | none =>
      rw [(servesNew before after).2]
      rfl
    | some stage =>
      obtain ⟨last, turned, turn⟩ := serveTurn e before
      obtain rfl := Option.some.inj (turned.symm.trans after)
      exact awayTurn taken (alone.others j stage other before) turn

theorem idleWorkers {s : State} (free : s.holds = nobody) (empty : s.workers = []) (e : Event) :
    (s.apply e).workers = [] := by
  refine List.eq_nil_iff_forall_not_mem.mpr fun w member => ?_
  obtain ⟨n, found⟩ := List.mem_iff_getElem?.mp member
  rcases workerBefore found with ⟨v, before, _⟩ | accepting
  · simp [empty] at before
  · have holder := acceptingHolds accepting
    simp [free, nobody] at holder

theorem aloneTaken {s : State} {i : Nat} (free : s.holds = nobody) (empty : s.workers = []) (idle : s.Idle) {e : Event}
    (holder : (s.apply e).holds = only (.serve i)) : Alone (s.apply e) i := by
  refine ⟨fun w member => ?_, fun j next other after => ?_⟩
  · rw [idleWorkers free empty e] at member
    cases member
  · have aside : next.holds = false := by
      rw [← holdsServe after, holder]
      exact Function.update_of_ne (fun same => other (Closer.serve.inj same)) ..
    cases before : s.serves[j]? with
    | none =>
      rw [(servesNew before after).2]
      rfl
    | some stage =>
      have away := idle stage (List.mem_of_getElem? before)
      obtain ⟨last, turned, turn⟩ := serveTurn e before
      obtain rfl := Option.some.inj (turned.symm.trans after)
      cases turn with
      | rest => exact ServeStage.idleAway away
      | took => cases aside
      | missed | cancelled => rfl
      | answered | subscribed | foundShut | entered | heard | failed | letGo | went | through | ended => cases away

theorem heldBefore {s : State} {e : Event} {k : Closer} (taken : s.parked = false) (holds : (s.apply e).holds k = true) :
    s.holds k = true := by
  cases sourceMove s e with
  | rest _ _ holders => exact holders ▸ holds
  | took _ waited => simp [taken] at waited
  | closed j _ _ _ holders | dropped j _ _ _ holders =>
    rw [holders] at holds
    by_cases same : k = j
    · simp [same] at holds
    · rwa [Function.update_of_ne same] at holds

theorem aloneRun {setup : Setup} {s₀ : State} (made : create setup = .ok s₀) (events : List Event) :
    ((s₀.run events).parked = true → (s₀.run events).workers = []) ∧
      ∀ i, (s₀.run events).holds (.serve i) = true → Alone (s₀.run events) i := by
  induction events using List.reverseRecOn with
  | nil =>
    obtain ⟨rfl, _⟩ := created made
    exact ⟨fun _ => rfl, fun i holds => by simp [run, State.holds] at holds⟩
  | append_singleton events e ih =>
    have after := custodyRun made (events ++ [e])
    rw [runSnoc] at after ⊢
    have onward (taken : (s₀.run events).parked = false) :
        (((s₀.run events).apply e).parked = true → ((s₀.run events).apply e).workers = []) ∧
          ∀ i, ((s₀.run events).apply e).holds (.serve i) = true → Alone ((s₀.run events).apply e) i :=
      ⟨fun parked => by simp [parkedBefore parked] at taken,
        fun i holds => aloneApply (ih.2 i (heldBefore taken holds)) taken e⟩
    cases custodyRun made events with
    | waiting parked free source idle =>
      have empty := ih.1 parked
      refine ⟨fun _ => idleWorkers free empty e, fun i holds => ?_⟩
      cases after with
      | held k _ holder =>
        obtain rfl := onlyHolds (holder ▸ holds)
        exact aloneTaken free empty idle holder
      | waiting _ free | closed _ free | left _ free => simp [free, nobody] at holds
    | held _ taken | closed taken | left taken => exact onward taken

end State
end SharedPort.Selector

namespace SharedPort.Selector.State

structure Gone (s : State) : Prop where
  taken : s.parked = false
  free : s.holds = nobody
  source : s.source = ⟨1, some 1⟩

inductive Part (s : State) : ServeStage → Prop where
  | looping {seen} (source : s.source = {}) : Part s (.looping seen)
  | closingSource {result} (source : s.source = {}) : Part s (.closingSource result)
  | closing {stage result} (gone : Gone s) : Part s (.closing stage result)
  | aborting {result} (gone : Gone s) (closed : s.closed = true) : Part s (.aborting result)
  | returned {result} (gone : Gone s) (closed : s.closed = true) (done : ∀ w ∈ s.workers, isSettled w = true) :
      Part s (.returned result)

structure Served (s : State) (i : Nat) (stage : ServeStage) : Prop where
  found : s.serves[i]? = some stage
  alone : Alone s i
  taken : s.parked = false
  part : Part s stage

theorem Gone.deaf {s : State} (gone : Gone s) (j : Nat) : s.isAccepting j = false := by
  refine Bool.eq_false_iff.mpr fun accepting => ?_
  have holder := acceptingHolds accepting
  simp [gone.free, nobody] at holder

theorem takenStays {s : State} (taken : s.parked = false) (e : Event) : (s.apply e).parked = false :=
  Bool.eq_false_iff.mpr fun parked => by simp [parkedBefore parked] at taken

theorem goneApply {s : State} (gone : Gone s) (e : Event) : Gone (s.apply e) := by
  obtain ⟨free, source⟩ := goneForGood gone.taken gone.free [e]
  exact ⟨takenStays gone.taken e, free, source.trans gone.source⟩

theorem soleHolder {s : State} {leftOpen : Prop} {k : Closer} (custody : Custody s leftOpen) (holds : s.holds k = true) :
    s.holds = only k := by
  cases custody with
  | held j _ holder =>
    rw [holder] at holds
    rw [holder, onlyHolds holds]
  | waiting _ free | closed _ free | left _ free => simp [free, nobody] at holds

/- As long as the one holder holds it, nothing happens to the source. -/
theorem sourceHeld {s : State} {e : Event} {k : Closer} (taken : s.parked = false) (holder : s.holds = only k)
    (holds : (s.apply e).holds k = true) : (s.apply e).source = s.source := by
  cases sourceMove s e with
  | rest _ source => exact source
  | took _ waited => simp [taken] at waited
  | closed j held _ _ holders | dropped j held _ _ holders =>
    rw [holder] at held
    rw [onlyHolds held] at holders
    simp [holders] at holds

theorem letsGo {s : State} {i : Nat} {result : Except Error Unit} (found : s.serves[i]? = some (.closingSource result))
    (taken : s.parked = false) (holder : s.holds = only (.serve i)) (source : s.source = {})
    (turned : (s.serveStep i).serves[i]? = some (.closing .swapping result)) : Gone (s.serveStep i) := by
  have released : (s.serveStep i).holds (.serve i) = false := holdsServe turned
  cases sourceMove s (.serveStep i) with
  | rest _ _ holders =>
    have same : (s.serveStep i).holds = s.holds := holders
    simp [same, holder, only] at released
  | took _ waited => simp [taken] at waited
  | closed k held parked closed holders =>
    rw [holder] at held
    rw [onlyHolds held, holder] at holders
    refine ⟨parked.trans taken, holders.trans (onlyReleased _), closed.trans ?_⟩
    simp only [closeSource, dropSource, source]
    rfl
  | dropped k held parked dropped holders leaves =>
    cases leaves with
    | foundShut checking => simp [found] at checking

theorem settledStage {w : Worker} (settled : isSettled w = true) : ∃ fate, w.stage = .settled fate := by
  unfold isSettled at settled
  split at settled
  · rename_i fate stage
    exact ⟨fate, stage⟩
  · cases settled

theorem settledStay {s : State} {e : Event} (deaf : ∀ j, s.isAccepting j = false)
    (done : ∀ w ∈ s.workers, isSettled w = true) : ∀ w ∈ (s.apply e).workers, isSettled w = true := by
  intro w member
  obtain ⟨j, found⟩ := List.mem_iff_getElem?.mp member
  rcases workerBefore found with ⟨v, before, _⟩ | accepting
  · have settled := done v (List.mem_of_getElem? before)
    obtain ⟨fate, stage⟩ := settledStage settled
    obtain rfl := Option.some.inj ((settledRun before stage [e]).symm.trans found)
    exact settled
  · simp [deaf] at accepting

theorem partTurn {s : State} {i : Nat} {e : Event} {stage next : ServeStage} {leftOpen : Prop} (closable : Closable s)
    (custody : Custody s leftOpen) (served : Served s i stage) (kept : e ≠ .cancelServe i)
    (turned : (s.apply e).serves[i]? = some next) (turn : ServeTurn s e i stage next) : Part (s.apply e) next := by
  have closedOn (closed : s.closed = true) : (s.apply e).closed = true := closedStays (closerMove s e) closed
  have sourceOn (source : s.source = {}) (had : stage.holds = true) (has : next.holds = true) :
      (s.apply e).source = {} :=
    (sourceHeld served.taken (soleHolder custody ((holdsServe served.found).trans had))
      ((holdsServe turned).trans has)).trans source
  have part := served.part
  cases turn with
  | cancelled event => exact (kept event).elim
  | took | missed | answered | subscribed | foundShut | entered => cases part
  | rest =>
    cases part with
    | looping source => exact .looping (sourceOn source rfl rfl)
    | closingSource source => exact .closingSource (sourceOn source rfl rfl)
    | closing gone => exact .closing (goneApply gone e)
    | aborting gone closed => exact .aborting (goneApply gone e) (closedOn closed)
    | returned gone closed done => exact .returned (goneApply gone e) (closedOn closed) (settledStay gone.deaf done)
  | heard | failed =>
    cases part with
    | looping source => exact .closingSource (sourceOn source rfl rfl)
  | letGo event =>
    subst event
    cases part with
    | closingSource source =>
      exact .closing (letsGo served.found served.taken (soleHolder custody (holdsServe served.found)) source turned)
  | went =>
    cases part with
    | closing gone => exact .closing (goneApply gone e)
  | through event =>
    cases part with
    | closing gone =>
      have closes : s.Closes .returned := .inr ⟨_, List.mem_of_getElem? served.found⟩
      exact .aborting (goneApply gone e) (closedOn (closable.begun _ closes nofun))
  | ended event done =>
    subst event
    cases part with
    | aborting gone closed =>
      have workers : (s.serveStep i).workers = (s.abortWorkers i).workers := by
        simp only [serveStep, served.found, done, if_true]
        rfl
      refine .returned (goneApply gone _) (closedOn closed) fun w member => ?_
      have mine : w.owner = i := (aloneApply served.alone served.taken (.serveStep i)).workers w member
      have settled := List.all_eq_true.mp done w (workers ▸ member)
      simpa [mine] using settled

theorem servedApply {s : State} {i : Nat} {e : Event} {stage : ServeStage} {leftOpen : Prop} (closable : Closable s)
    (custody : Custody s leftOpen) (served : Served s i stage) (kept : e ≠ .cancelServe i) :
    ∃ next, Served (s.apply e) i next ∧ ServeTurn s e i stage next := by
  obtain ⟨next, turned, turn⟩ := serveTurn e served.found
  exact ⟨next, ⟨turned, aloneApply served.alone served.taken e, takenStays served.taken e,
    partTurn closable custody served kept turned turn⟩, turn⟩

theorem servedLooping {setup : Setup} {s₀ : State} (made : create setup = .ok s₀) {before : List Event} {i seen : Nat}
    (loops : (s₀.run before).serves[i]? = some (.looping seen)) : Served (s₀.run before) i (.looping seen) := by
  have holds : (s₀.run before).holds (.serve i) = true := holdsServe loops
  have alone := (aloneRun made before).2 i holds
  cases custodyRun made before with
  | held k taken holder source => exact ⟨loops, alone, taken, .looping source⟩
  | waiting _ free | closed _ free | left _ free => simp [free, nobody] at holds

theorem servedRun {setup : Setup} {s₀ : State} (made : create setup = .ok s₀) {before : List Event} {i seen : Nat}
    (loops : (s₀.run before).serves[i]? = some (.looping seen)) {after : List Event} (kept : .cancelServe i ∉ after) :
    ∃ stage, Served (s₀.run (before ++ after)) i stage := by
  induction after using List.reverseRecOn with
  | nil => exact ⟨_, by simpa using servedLooping made loops⟩
  | append_singleton after e ih =>
    obtain ⟨stage, served⟩ := ih fun member => kept (List.mem_append_left _ member)
    rw [← List.append_assoc, runSnoc]
    obtain ⟨next, onward, _⟩ := servedApply (closableRun (closableCreated made) _) (custodyRun made _) served
      fun same => kept (List.mem_append_right _ (List.mem_singleton.mpr same.symm))
    exact ⟨next, onward⟩

end SharedPort.Selector.State
