import SharedPort.Proofs.Selector.Closing

/-! The life of a serve call. Every event leaves it where it is or moves it on by one of the turns listed here, and what
moves it is a step of its own, an outcome of the source, or its cancellation. -/
namespace SharedPort.Selector

namespace State

/- A serve call that can do nothing by itself: it listens to the source, waits for its workers, or has come to its end. -/
inductive Rests (s : State) (i : Nat) : ServeStage → Prop where
  | listening {seen} (quiet : s.signals ≤ seen) : Rests s i (.looping seen)
  | waiting {result} (busy : (s.abortWorkers i).isDone i = false) : Rests s i (.aborting result)
  | returned {result} : Rests s i (.returned result)
  | cancelled : Rests s i .cancelled

inductive ServeTurn (s : State) (e : Event) (i : Nat) : ServeStage → ServeStage → Prop where
  | rest {stage} (own : e = .serveStep i → Rests s i stage)
      (passes : ∀ cause seen, e = .acceptFailed i cause → stage = .looping seen → s.signals ≤ seen →
        endOfLoop cause = none) : ServeTurn s e i stage stage
  | took (event : e = .serveStep i) (waited : s.parked = true) : ServeTurn s e i .taking .subscribing
  | missed (event : e = .serveStep i) (gone : s.parked = false) : ServeTurn s e i .taking .withoutSource
  | answered (event : e = .serveStep i) :
      ServeTurn s e i .withoutSource (.returned (if s.closed then .ok () else .error .alreadyServing))
  | subscribed (event : e = .serveStep i) : ServeTurn s e i .subscribing (.checking s.signals)
  | foundShut {seen} (event : e = .serveStep i) (shut : s.closed = true) :
      ServeTurn s e i (.checking seen) (.returned (.ok ()))
  | entered {seen} (event : e = .serveStep i) (isOpen : s.closed = false) :
      ServeTurn s e i (.checking seen) (.looping seen)
  | heard {seen} (event : e = .serveStep i) (signal : seen < s.signals) :
      ServeTurn s e i (.looping seen) (.closingSource (.ok ()))
  | failed {seen cause why} (event : e = .acceptFailed i cause) (quiet : s.signals ≤ seen)
      (fatal : endOfLoop cause = some why) : ServeTurn s e i (.looping seen) (.closingSource (.error why))
  | letGo {result} (event : e = .serveStep i) : ServeTurn s e i (.closingSource result) (.closing .swapping result)
  | went {stage result} (event : e = .serveStep i) (under : stage ≠ .returned) :
      ServeTurn s e i (.closing stage result) (.closing (s.closeAdvance stage).1 result)
  | through {result} (event : e = .serveStep i) : ServeTurn s e i (.closing .returned result) (.aborting result)
  | ended {result} (event : e = .serveStep i) (done : (s.abortWorkers i).isDone i = true) :
      ServeTurn s e i (.aborting result) (.returned result)
  | cancelled {stage} (event : e = .cancelServe i)
      (resting : stage = .taking ∨ (∃ seen, stage = .looping seen) ∨ ∃ result, stage = .aborting result) :
      ServeTurn s e i stage .cancelled

section Turns
variable {s : State} {i : Nat} {stage : ServeStage}

theorem turnServeStep (found : s.serves[i]? = some stage) :
    ∃ next, (s.serveStep i).serves = s.serves.set i next ∧ ServeTurn s (.serveStep i) i stage next := by
  have rest {t : State} (same : t.serves = s.serves) (rests : Rests s i stage) :
      ∃ next, t.serves = s.serves.set i next ∧ ServeTurn s (.serveStep i) i stage next :=
    ⟨stage, by rw [same, setFound found], .rest (fun _ => rests) (by simp)⟩
  simp only [serveStep, found]
  cases stage with
  | taking =>
    dsimp only
    split
    · rename_i waited
      exact ⟨_, rfl, .took rfl waited⟩
    · rename_i gone
      exact ⟨_, rfl, .missed rfl (by simpa using gone)⟩
  | withoutSource => exact ⟨_, rfl, .answered rfl⟩
  | subscribing => exact ⟨_, rfl, .subscribed rfl⟩
  | checking seen =>
    dsimp only
    split
    · rename_i shut
      exact ⟨_, rfl, .foundShut rfl shut⟩
    · rename_i isOpen
      exact ⟨_, rfl, .entered rfl (by simpa using isOpen)⟩
  | looping seen =>
    dsimp only
    split
    · rename_i signal
      exact ⟨_, rfl, .heard rfl signal⟩
    · rename_i quiet
      exact rest rfl (.listening (Nat.le_of_not_lt quiet))
  | closingSource result => exact ⟨_, rfl, .letGo rfl⟩
  | closing step result =>
    have serves := (closeAdvanceSame s step).2.1
    cases step with
    | returned => exact ⟨_, rfl, .through rfl⟩
    | swapping | signalling | taking | closingSource | draining | closing | ringing =>
      exact ⟨_, congrArg (List.set · i _) serves, .went rfl (by simp)⟩
  | aborting result =>
    dsimp only
    split
    · rename_i done
      exact ⟨_, rfl, .ended rfl done⟩
    · rename_i busy
      exact rest rfl (.waiting (by simpa using busy))
  | returned => exact rest rfl .returned
  | cancelled => exact rest rfl .cancelled

theorem turnAcceptFailed (found : s.serves[i]? = some stage) (cause : Error) :
    ∃ next, (s.acceptFailed i cause).serves = s.serves.set i next ∧ ServeTurn s (.acceptFailed i cause) i stage next := by
  unfold acceptFailed isAccepting
  rw [found]
  cases stage with
  | looping seen =>
    dsimp only
    split
    · rename_i accepting
      have quiet : s.signals ≤ seen := by simpa using accepting
      split
      · rename_i passing
        refine ⟨_, (setFound found).symm, .rest (by simp) fun _ _ event _ _ => ?_⟩
        cases event
        exact passing
      · rename_i fatal
        exact ⟨_, rfl, .failed rfl quiet fatal⟩
    · rename_i deaf
      refine ⟨_, (setFound found).symm, .rest (by simp) fun _ other _ same quiet => ?_⟩
      cases same
      exact (deaf (by simpa using quiet)).elim
  | taking | withoutSource | subscribing | checking | closingSource | closing | aborting | returned | cancelled =>
    exact ⟨_, (setFound found).symm, .rest (by simp) (by simp)⟩

theorem turnCancelServe (found : s.serves[i]? = some stage) :
    ∃ next, (s.cancelServe i).serves = s.serves.set i next ∧ ServeTurn s (.cancelServe i) i stage next := by
  unfold cancelServe
  rw [found]
  cases stage with
  | taking => exact ⟨_, rfl, .cancelled rfl (.inl rfl)⟩
  | looping seen => exact ⟨_, rfl, .cancelled rfl (.inr (.inl ⟨seen, rfl⟩))⟩
  | aborting result => exact ⟨_, rfl, .cancelled rfl (.inr (.inr ⟨result, rfl⟩))⟩
  | withoutSource | subscribing | checking | closingSource | closing | returned | cancelled =>
    exact ⟨_, (setFound found).symm, .rest (by simp) (by simp)⟩

end Turns

theorem noServeStep {s : State} {i : Nat} (absent : s.serves[i]? = none) : s.serveStep i = s := by
  simp only [serveStep, absent]

theorem noAcceptFailed {s : State} {i : Nat} (absent : s.serves[i]? = none) (cause : Error) :
    s.acceptFailed i cause = s := by
  simp [acceptFailed, isAccepting, absent]

theorem noCancelServe {s : State} {i : Nat} (absent : s.serves[i]? = none) : s.cancelServe i = s := by
  simp only [cancelServe, absent]

inductive ServesMove (s : State) (e : Event) (t : State) : Prop where
  | same (serves : t.serves = s.serves)
      (other : ∀ i stage, s.serves[i]? = some stage → e ≠ .serveStep i ∧ ∀ cause, e ≠ .acceptFailed i cause)
  | began (event : e = .beginServe) (serves : t.serves = s.serves ++ [.taking])
  | turned {i : Nat} {stage next : ServeStage}
      (event : e = .serveStep i ∨ (∃ cause, e = .acceptFailed i cause) ∨ e = .cancelServe i)
      (found : s.serves[i]? = some stage) (serves : t.serves = s.serves.set i next) (turn : ServeTurn s e i stage next)

theorem servesMove (s : State) (e : Event) : ServesMove s e (s.apply e) := by
  cases calling : e.isCalling with
  | false =>
    refine .same (uncalled s calling).serves fun i _ _ => ⟨?_, fun _ => ?_⟩ <;> rintro rfl <;> cases calling
  | true =>
    cases e with
    | beginServe => exact .began rfl rfl
    | beginClose => exact .same rfl (by simp)
    | closeStep i =>
      simp only [apply, closeStep]
      split
      · exact .same rfl (by simp)
      · exact .same (closeAdvanceSame s _).2.1 (by simp)
    | serveStep i =>
      cases found : s.serves[i]? with
      | none =>
        refine .same (congrArg _ (noServeStep found)) fun j _ present => ⟨?_, by simp⟩
        rintro ⟨⟩
        simp [found] at present
      | some stage =>
        obtain ⟨next, serves, turn⟩ := turnServeStep found
        exact .turned (.inl rfl) found serves turn
    | acceptFailed i cause =>
      cases found : s.serves[i]? with
      | none =>
        refine .same (congrArg _ (noAcceptFailed found cause)) fun j _ present => ⟨by simp, ?_⟩
        rintro _ ⟨⟩
        simp [found] at present
      | some stage =>
        obtain ⟨next, serves, turn⟩ := turnAcceptFailed found cause
        exact .turned (.inr (.inl ⟨cause, rfl⟩)) found serves turn
    | cancelServe i =>
      cases found : s.serves[i]? with
      | none => exact .same (congrArg _ (noCancelServe found)) (by simp)
      | some stage =>
        obtain ⟨next, serves, turn⟩ := turnCancelServe found
        exact .turned (.inr (.inr rfl)) found serves turn
    | _ => cases calling

theorem serveTurn {s : State} {i : Nat} {stage : ServeStage} (e : Event) (found : s.serves[i]? = some stage) :
    ∃ next, (s.apply e).serves[i]? = some next ∧ ServeTurn s e i stage next := by
  cases servesMove s e with
  | same serves other =>
    obtain ⟨own, fails⟩ := other i stage found
    exact ⟨stage, serves ▸ found, .rest (fun event => (own event).elim) fun cause _ event => (fails cause event).elim⟩
  | began event serves =>
    refine ⟨stage, ?_, .rest (by simp [event]) (by simp [event])⟩
    rw [serves, List.getElem?_append_left (List.getElem?_eq_some_iff.mp found).1, found]
  | @turned j old next event present serves turn =>
    by_cases own : j = i
    · subst j
      cases Option.some.inj (found.symm.trans present)
      exact ⟨next, by rw [serves, foundSet found], turn⟩
    · refine ⟨stage, by rw [serves, List.getElem?_set_ne own, found], .rest (fun same => ?_) fun cause _ same => ?_⟩
      · simp [same, Ne.symm own] at event
      · simp [same, Ne.symm own] at event

theorem servesNew {s : State} {i : Nat} {stage : ServeStage} {e : Event} (absent : s.serves[i]? = none)
    (found : (s.apply e).serves[i]? = some stage) : e = .beginServe ∧ stage = .taking := by
  cases servesMove s e with
  | same serves => simp [serves, absent] at found
  | began event serves =>
    rw [serves, List.getElem?_append_right (List.getElem?_eq_none_iff.mp absent)] at found
    exact ⟨event, List.mem_singleton.mp (List.mem_of_getElem? found)⟩
  | @turned j old next event present serves =>
    have beyond := List.getElem?_eq_none_iff.mp absent
    simp [serves, List.getElem?_eq_none (by simpa using beyond : (s.serves.set j next).length ≤ i)] at found

end State
end SharedPort.Selector
