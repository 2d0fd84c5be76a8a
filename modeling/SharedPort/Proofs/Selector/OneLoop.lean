import SharedPort.Proofs.Selector.Bystanders
import SharedPort.Proofs.Selector.Custody
import SharedPort.Proofs.Selector.Returning

/-! One accept loop in the life of a selector. Only who took the source comes to it, and nobody takes the source twice.
A call that finds it gone is sent away, with an error as long as the selector is open. -/
namespace SharedPort.Selector

def ServeStage.isEntering : ServeStage → Bool
  | .subscribing | .checking _ => true
  | .taking | .withoutSource | .looping _ | .closingSource _ | .closing .. | .aborting _ | .returned _ | .cancelled => false

theorem ServeStage.enteringHolds {stage : ServeStage} (entering : stage.isEntering = true) : stage.holds = true := by
  cases stage <;> first | rfl | cases entering

/- The stages of a call that started when the selector was closed. -/
inductive ServeStage.Late : ServeStage → Prop where
  | taking : Late .taking
  | withoutSource : Late .withoutSource
  | subscribing : Late .subscribing
  | checking {seen} : Late (.checking seen)
  | returned : Late (.returned (.ok ()))
  | cancelled : Late .cancelled

def ServeStage.toGo : ServeStage → Nat
  | .taking => 3
  | .subscribing => 2
  | .withoutSource | .checking _ => 1
  | .looping _ | .closingSource _ | .closing .. | .aborting _ | .returned _ | .cancelled => 0

namespace State

def Loops (s : State) (i : Nat) : Prop := ∃ seen, s.serves[i]? = some (.looping seen)

structure EntersLoop (s : State) (e : Event) (i : Nat) : Prop where
  outside : ¬ s.Loops i
  inside : (s.apply e).Loops i

def CanEnter (s : State) : Prop :=
  s.parked = true ∨ ∃ (i : Nat) (stage : ServeStage), s.serves[i]? = some stage ∧ stage.isEntering = true

theorem holdsServe {s : State} {i : Nat} {stage : ServeStage} (found : s.serves[i]? = some stage) :
    s.holds (.serve i) = stage.holds := by simp only [holds, found, Option.any_some]

theorem entersFrom {s : State} {e : Event} {i : Nat} (enters : EntersLoop s e i) :
    e = .serveStep i ∧ ∃ seen, s.serves[i]? = some (.checking seen) := by
  obtain ⟨seen, after⟩ := enters.inside
  cases found : s.serves[i]? with
  | none => cases (servesNew found after).2
  | some stage =>
    obtain ⟨next, turned, turn⟩ := serveTurn e found
    obtain rfl : next = .looping seen := Option.some.inj (turned.symm.trans after)
    cases turn with
    | rest => exact (enters.outside ⟨seen, found⟩).elim
    | entered event => exact ⟨event, seen, rfl⟩

theorem parkedBefore {s : State} {e : Event} (parked : (s.apply e).parked = true) : s.parked = true := by
  cases sourceMove s e with
  | rest same | closed _ _ same | dropped _ _ same => exact same.symm.trans parked
  | took _ waited => exact waited

theorem enteringBefore {s : State} {e : Event} {i : Nat} {next : ServeStage} (found : (s.apply e).serves[i]? = some next)
    (entering : next.isEntering = true) :
    s.parked = true ∨ ∃ stage, s.serves[i]? = some stage ∧ stage.isEntering = true := by
  cases before : s.serves[i]? with
  | none =>
    rw [(servesNew before found).2] at entering
    cases entering
  | some stage =>
    obtain ⟨last, turned, turn⟩ := serveTurn e before
    obtain rfl : last = next := Option.some.inj (turned.symm.trans found)
    cases turn with
    | rest => exact .inr ⟨_, rfl, entering⟩
    | took _ waited => exact .inl waited
    | subscribed => exact .inr ⟨_, rfl, rfl⟩
    | missed | answered | foundShut | entered | heard | failed | letGo | went | through | ended | cancelled => cases entering

theorem canEnterBefore {s : State} {e : Event} (can : (s.apply e).CanEnter) : s.CanEnter := by
  rcases can with parked | ⟨i, stage, found, entering⟩
  · exact .inl (parkedBefore parked)
  · exact (enteringBefore found entering).imp_right fun ⟨old, before, entered⟩ => ⟨i, old, before, entered⟩

theorem neverAgain {s : State} (cannot : ¬ s.CanEnter) (events : List Event) : ¬ (s.run events).CanEnter := by
  induction events generalizing s with
  | nil => exact cannot
  | cons e rest ih => exact ih fun can => cannot (canEnterBefore can)

theorem entersLast {s : State} {leftOpen : Prop} (custody : Custody s leftOpen) {e : Event} {i : Nat}
    (enters : EntersLoop s e i) : ¬ (s.apply e).CanEnter := by
  obtain ⟨-, seen, found⟩ := entersFrom enters
  have holder : s.holds (.serve i) = true := holdsServe found
  have notFree : s.holds ≠ nobody := fun free => by simp [free, nobody] at holder
  cases custody with
  | waiting _ free | closed _ free | left _ free => exact (notFree free).elim
  | held k taken only =>
    rintro (parked | ⟨j, next, after, entering⟩)
    · simp [parkedBefore parked] at taken
    · rcases enteringBefore after entering with parked | ⟨stage, before, entered⟩
      · simp [parked] at taken
      · have other : s.holds (.serve j) = true := (holdsServe before).trans (ServeStage.enteringHolds entered)
        rw [only] at holder other
        obtain rfl : j = i := Closer.serve.inj ((onlyHolds other).trans (onlyHolds holder).symm)
        obtain ⟨seen, inside⟩ := enters.inside
        cases Option.some.inj (after.symm.trans inside)
        cases entering

def isStepOfServe (i : Nat) : Event → Bool
  | .serveStep j => j = i
  | _ => false

theorem lateTurn {s : State} {e : Event} {i : Nat} {stage next : ServeStage} (closed : s.closed = true)
    (late : stage.Late) (turn : ServeTurn s e i stage next) :
    next.Late ∧ next.toGo ≤ stage.toGo - [e].countP (isStepOfServe i) := by
  have one : [Event.serveStep i].countP (isStepOfServe i) = 1 := by simp [isStepOfServe]
  cases turn with
  | rest own =>
    refine ⟨late, ?_⟩
    cases mine : isStepOfServe i e with
    | false => simp [mine]
    | true =>
      have event : e = .serveStep i := by
        cases e <;> simp_all [isStepOfServe]
      cases own event with
      | listening | waiting => cases late
      | returned | cancelled => exact Nat.zero_le _
  | took event | subscribed event | missed event =>
    subst event
    exact ⟨by constructor, by simp [one, ServeStage.toGo]⟩
  | answered event =>
    subst event
    rw [if_pos closed]
    exact ⟨.returned, Nat.zero_le _⟩
  | foundShut event => exact ⟨.returned, Nat.zero_le _⟩
  | entered _ isOpen => simp [closed] at isOpen
  | cancelled => exact ⟨.cancelled, Nat.zero_le _⟩
  | heard | failed | letGo | went | through | ended => cases late

theorem lateRun {s : State} {i : Nat} {stage : ServeStage} (closed : s.closed = true)
    (found : s.serves[i]? = some stage) (late : stage.Late) (events : List Event) :
    ∃ last, (s.run events).serves[i]? = some last ∧ last.Late ∧
      last.toGo ≤ stage.toGo - events.countP (isStepOfServe i) := by
  induction events generalizing s stage with
  | nil => exact ⟨stage, found, late, Nat.le_refl _⟩
  | cons e rest ih =>
    obtain ⟨next, turned, turn⟩ := serveTurn e found
    obtain ⟨lateNext, lower⟩ := lateTurn closed late turn
    obtain ⟨last, reached, lateLast, least⟩ := ih (closedStays (closerMove s e) closed) turned lateNext
    refine ⟨last, reached, lateLast, ?_⟩
    have steps : (e :: rest).countP (isStepOfServe i) = [e].countP (isStepOfServe i) + rest.countP (isStepOfServe i) := by
      rw [← List.countP_append, List.singleton_append]
    omega

theorem cancelledBy {s : State} {i : Nat} {events : List Event}
    (cancelled : (s.run events).serves[i]? = some .cancelled) :
    s.serves[i]? = some .cancelled ∨ .cancelServe i ∈ events := by
  induction events generalizing s with
  | nil => exact .inl cancelled
  | cons e rest ih =>
    rcases ih cancelled with early | later
    · cases before : s.serves[i]? with
      | none => cases (servesNew before early).2
      | some stage =>
        obtain ⟨next, turned, turn⟩ := serveTurn e before
        obtain rfl : next = .cancelled := Option.some.inj (turned.symm.trans early)
        cases turn with
        | rest => exact .inl rfl
        | cancelled event => exact .inr (event ▸ List.mem_cons_self)
    · exact .inr (List.mem_cons_of_mem e later)

theorem closedRun {s : State} (closed : s.closed = true) (events : List Event) : (s.run events).closed = true := by
  induction events generalizing s with
  | nil => exact closed
  | cons e rest ih => exact ih (closedStays (closerMove s e) closed)

def Answered (s : State) : Prop :=
  ∀ (i : Nat) (result : Except Error Unit), s.serves[i]? = some (.returned result) →
    result ≠ .error .alreadyServing → s.closed = true

theorem answeredApply {s : State} (sole : Sole s) (answered : s.Answered) (e : Event) : (s.apply e).Answered := by
  intro i result after other
  have stays (closed : s.closed = true) : (s.apply e).closed = true := closedStays (closerMove s e) closed
  cases before : s.serves[i]? with
  | none => cases (servesNew before after).2
  | some stage =>
    obtain ⟨next, turned, turn⟩ := serveTurn e before
    obtain rfl : next = .returned result := Option.some.inj (turned.symm.trans after)
    cases turn with
    | rest => exact stays (answered i result before other)
    | answered =>
      by_cases closed : s.closed = true
      · exact stays closed
      · simp [closed] at other
    | foundShut _ shut => exact stays shut
    | ended => exact stays (sole.aborting result (List.mem_of_getElem? before))

theorem answeredRun {setup : Setup} {s₀ : State} (made : create setup = .ok s₀) (events : List Event) :
    (s₀.run events).Answered := by
  induction events using List.reverseRecOn with
  | nil =>
    obtain ⟨rfl, _⟩ := created made
    intro i result found
    simp [run] at found
  | append_singleton events e ih =>
    rw [runSnoc]
    exact answeredApply (soleRun (closableCreated made) (soleCreated made) events) ih e

/- Call `i` has started when the selector was closed. It never accepts, and is done within three steps of its own. -/
structure TurnedAway (t : State) (i : Nat) (more : List Event) : Prop where
  deaf : (t.run more).isAccepting i = false
  result : ∀ result : Except Error Unit, (t.run more).serves[i]? = some (.returned result) → result = .ok ()
  returns : .cancelServe i ∉ more → 3 ≤ more.countP (isStepOfServe i) →
    (t.run more).serves[i]? = some (.returned (.ok ()))

/- The law of the accept loop: at most one call enters it, once. A call that finds the source gone has its answer with its
next step, and the whole run is as it would be without any step of that call. -/
structure OneLoop (s₀ : State) (events : List Event) : Prop where
  once : ∀ e i, EntersLoop (s₀.run events) e i → (∀ j, EntersLoop (s₀.run events) e j → j = i) ∧
    ∀ more e' j, ¬ EntersLoop ((s₀.run events).run (e :: more)) e' j
  missed : ∀ i : Nat, (s₀.run events).serves[i]? = some .taking → (s₀.run events).parked = false →
    (s₀.run events).apply (.serveStep i) = (s₀.run events).setServe i .withoutSource
  refused : ∀ i : Nat, (s₀.run events).serves[i]? = some .withoutSource → (s₀.run events).closed = false →
    (s₀.run events).apply (.serveStep i) = (s₀.run events).setServe i (.returned (.error .alreadyServing))
  traceless : ∀ i : Nat, (s₀.run events).serves[i]? = some .withoutSource → ∀ more, ∃ stage, Missed stage ∧
    ((s₀.run events).run more).serves[i]? = some stage ∧
      (s₀.run events).run more = (s₀.run (withoutCall i (events ++ more))).setServe i stage
  closed : (s₀.run events).closed = true → ∀ more, ((s₀.run events).run more).closed = true
  answered : ∀ (i : Nat) (result : Except Error Unit), (s₀.run events).serves[i]? = some (.returned result) →
    result ≠ .error .alreadyServing → (s₀.run events).closed = true
  late : (s₀.run events).closed = true → ∀ i : Nat, (s₀.run events).serves[i]? = some .taking → ∀ more,
    TurnedAway (s₀.run events) i more

theorem turnedAway {t : State} {i : Nat} (closed : t.closed = true) (found : t.serves[i]? = some .taking)
    (more : List Event) : TurnedAway t i more := by
  obtain ⟨last, reached, late, lower⟩ := lateRun closed found .taking more
  refine ⟨?_, fun result returned => ?_, fun kept enough => ?_⟩
  · simp only [isAccepting, reached]
    cases late <;> rfl
  · cases Option.some.inj (reached.symm.trans returned)
    cases late
    rfl
  · have done : last.toGo = 0 := by
      have first : ServeStage.toGo .taking = 3 := rfl
      omega
    cases late with
    | taking | withoutSource | subscribing | checking => simp [ServeStage.toGo] at done
    | returned => exact reached
    | cancelled =>
      rcases cancelledBy reached with before | event
      · simp [found] at before
      · exact (kept event).elim

theorem oneLoopEver {setup : Setup} {s₀ : State} (made : create setup = .ok s₀) (events : List Event) :
    OneLoop s₀ events where
  once := by
    intro e i enters
    refine ⟨fun j again => ?_, fun more e' j later => ?_⟩
    · exact Event.serveStep.inj ((entersFrom again).1.symm.trans (entersFrom enters).1)
    · obtain ⟨-, seen, found⟩ := entersFrom later
      have never := neverAgain (entersLast (custodyRun made events) enters) more
      exact never (.inr ⟨j, _, found, rfl⟩)
  missed := by
    intro i found gone
    simp only [apply, serveStep, found, gone, Bool.false_eq_true, if_false]
  refused := by
    intro i found isOpen
    simp only [apply, serveStep, found, isOpen, Bool.false_eq_true, if_false]
  traceless := by
    intro i found more
    have fresh : s₀.serves[i]? = none := by
      obtain ⟨rfl, _⟩ := created made
      rfl
    rw [← runAppend]
    exact leavesNoTrace fresh found more
  closed := closedRun
  answered := answeredRun made events
  late := fun closed i found more => turnedAway closed found more

def crowdRun : List Event := [.beginServe, .beginServe, .beginServe, .serveStep 0, .serveStep 1, .serveStep 0]

theorem crowdOneLoop :
    create pairSetup = .ok { setup := pairSetup } ∧ OneLoop { setup := pairSetup } crowdRun ∧
      EntersLoop (run { setup := pairSetup } crowdRun) (.serveStep 0) 0 ∧
      (run { setup := pairSetup } crowdRun).serves = [.checking 0, .withoutSource, .taking] ∧
      (run { setup := pairSetup } crowdRun).closed = false := by
  have made : create pairSetup = .ok { setup := pairSetup } := rfl
  have before : (run { setup := pairSetup } crowdRun).serves = [.checking 0, .withoutSource, .taking] := rfl
  refine ⟨made, oneLoopEver made crowdRun, ⟨?_, 0, rfl⟩, before, rfl⟩
  rintro ⟨seen, inside⟩
  simp [before] at inside

end State
end SharedPort.Selector
