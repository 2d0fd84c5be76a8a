import Mathlib.Data.Nat.Pairing
import SharedPort.Proofs.Selector.Housed
import SharedPort.Proofs.Selector.ServeEnds

/-! How an accept loop stops, and what it leaves. Its result is that of the first outcome it stops for, it returns, and
when no close is under way any more then nothing of the selector is left open. -/
namespace SharedPort.Selector.State

structure Undelivered (s₀ : State) (events : List Event) (j : Nat) : Prop where
  before : ∀ early e late p l, events = early ++ e :: late → ¬ Enters (s₀.run early) e j p l
  dropped : ∀ more, Dropped ((s₀.run events).run more) j ∧ ∀ e p l, ¬ Enters ((s₀.run events).run more) e j p l

/- What is left when a serve call has returned that had been in its loop, and every call of close has. -/
structure Stopped (s₀ : State) (events : List Event) : Prop where
  closed : ∀ more, ((s₀.run events).run more).closed = true
  registry : ∀ more, ((s₀.run events).run more).registry = {}
  source : ∀ more, ((s₀.run events).run more).source = ⟨1, some 1⟩
  deaf : ∀ more j, ((s₀.run events).run more).isAccepting j = false
  shut : ∀ l, Registered s₀ events l → ShutForGood (s₀.run events) l ∨
    TakenOut s₀ events l ∧ ⟨l, .closing⟩ ∈ (s₀.run events).listenerCloses
  settled : ∀ w ∈ (s₀.run events).workers, isSettled w = true
  dropped : ∀ j < (s₀.run events).workers.length, (given j s₀ events).length < s₀.setup.headerSize →
    Undelivered s₀ events j
  queued : ∀ l, (s₀.run events).isShut l = true → ∀ later, HandsOut (s₀.run events) later l
  answers : ∀ l, Registered s₀ events l → (s₀.run events).isShut l = true → ¬ (s₀.run events).RingsAll l →
    EndedAt (s₀.run events) l

theorem nobodyMidway {s : State} {i : Nat} {result : Except Error Unit} (served : Served s i (.returned result))
    (closes : ∀ stage ∈ s.closes, stage = .returned) (k : Closer) : ¬ s.Midway k := by
  rintro ⟨stage, here, midway⟩
  cases k with
  | close c =>
    rw [closes stage (List.mem_of_getElem? here)] at midway
    cases midway
  | serve j =>
    obtain ⟨serving, found, closing⟩ := Option.bind_eq_some_iff.mp here
    by_cases same : j = i
    · subst same
      obtain rfl := Option.some.inj (served.found.symm.trans found)
      cases closing
    · rw [ServeStage.awayCloses (served.alone.others j serving same found)] at closing
      cases closing

theorem settledUndelivered {setup : Setup} {s₀ : State} (made : create setup = .ok s₀) {events : List Event} {j : Nat}
    {w : Worker} (found : (s₀.run events).workers[j]? = some w) (settled : isSettled w = true)
    (short : (given j s₀ events).length < s₀.setup.headerSize) : Undelivered s₀ events j := by
  obtain ⟨fate, stage⟩ := settledStage settled
  have account := accountRun made events found
  rw [stage] at account
  have dropped : Dropped (s₀.run events) j := by
    refine ⟨w, fate, found, stage, fun l queued => ?_⟩
    subst queued
    exact absurd account.1 (Nat.ne_of_lt short)
  refine ⟨fun early e late p l split enters => ?_, droppedForEver dropped⟩
  obtain ⟨whole, length, _⟩ := (entersOnlyWhereLed made early).earned e j p l enters
  rw [split, givenAppend, List.length_append, whole] at short
  omega

theorem stopped {setup : Setup} {s₀ : State} (made : create setup = .ok s₀) {events : List Event} {i : Nat}
    {result : Except Error Unit} (handled : Handled s₀ events) (served : Served (s₀.run events) i (.returned result))
    (closes : ∀ stage ∈ (s₀.run events).closes, stage = .returned) : Stopped s₀ events := by
  have closable := closableRun (closableCreated made) events
  have finished := nobodyMidway served closes
  cases served.part with
  | returned gone closed done =>
    have free (more : List Event) := (goneForGood gone.taken gone.free more).1
    refine ⟨closedRun closed, fun more => ?_, fun more => ?_, fun more j => ?_, fun l registered => ?_, done,
      fun j present short => ?_, fun l shut => handsOut shut, fun l registered shut rung => ?_⟩
    · exact emptied (closableRun closable more) (closedRun closed more) (noneMidway closed finished more)
    · exact (goneForGood gone.taken gone.free more).2.trans gone.source
    · refine Bool.eq_false_iff.mpr fun accepting => ?_
      have holder := acceptingHolds accepting
      simp [free more, nobody] at holder
    · have present := registeredPresent registered
      have ticketed := (wakefulRun made handled l).ticketed
      rcases housedRun made events present with housed | taken
      · exact .inl (shutForGood ticketed (housedShut closable closed finished housed))
      · rcases shutOrPending closable closed present with shut | pending
        · exact .inl (shutForGood ticketed shut)
        · exact .inr ⟨taken, pendingMidway finished pending⟩
    · exact settledUndelivered made (List.getElem?_eq_getElem present) (done _ (List.getElem_mem present)) short
    · have wakeful := wakefulRun made handled l
      exact endedAtAnswering ⟨wakeful.ticketed, shut, (wakeful.shut shut).resolve_left rung⟩

/- What the loop does with the next event once a signal is there: it takes nothing from the source, whatever that has ready,
and its own next step ends it. -/
structure Deaf (t : State) (i : Nat) : Prop where
  accepting : t.isAccepting i = false
  connection : ∀ arrival, t.apply (.accepted i arrival) = t
  failure : ∀ cause, t.apply (.acceptFailed i cause) = t
  next : (t.apply (.serveStep i)).serves[i]? = some (.closingSource (.ok ()))

theorem signalledDeaf {t : State} {i seen : Nat} (signalled : Signalled t i seen) : Deaf t i := by
  have accepting : t.isAccepting i = false := by simp [isAccepting, signalled.loops, signalled.unheard]
  refine ⟨accepting, fun arrival => ?_, fun cause => ?_, ?_⟩
  · simp [apply, accepted, accepting]
  · simp [apply, acceptFailed, accepting]
  · simp only [apply, serveStep, signalled.loops, signalled.unheard, if_true]
    exact foundSet signalled.loops _

/- Call `i` is in its loop after `before`, and whatever happens `after` does not cancel it. -/
structure AcceptLoop (s₀ : State) (before : List Event) (i seen : Nat) (after : List Event) : Prop where
  course : Course (s₀.run before) i seen after
  owners : ∀ w ∈ (s₀.run (before ++ after)).workers, w.owner = i
  deaf : Signalled (s₀.run (before ++ after)) i seen → Deaf (s₀.run (before ++ after)) i
  returns : ∀ (result : Except Error Unit) (schedule : Nat → Event),
    EndsAs (s₀.run (before ++ after)) i result ∨ Signalled (s₀.run (before ++ after)) i seen ∧ result = .ok () →
    Progress.Fair (fun n => duty i (schedule n)) → (∀ n, schedule n ≠ .cancelServe i) →
    ∃ n, ((s₀.run (before ++ after)).follow schedule n).serves[i]? = some (.returned result)
  stopped : ∀ result : Except Error Unit, (s₀.run (before ++ after)).serves[i]? = some (.returned result) →
    (∀ stage ∈ (s₀.run (before ++ after)).closes, stage = .returned) → Stopped s₀ (before ++ after)

theorem endsReturn {s : State} {i : Nat} {schedule : Nat → Event} {result : Except Error Unit} {stage : ServeStage}
    (orderly : Orderly s) (kept : ∀ n, schedule n ≠ .cancelServe i) (fair : Progress.Fair fun n => duty i (schedule n))
    (served : Served s i stage) (ends : EndsAs s i result) :
    ∃ n, (s.follow schedule n).serves[i]? = some (.returned result) := by
  obtain ⟨now, found, ending⟩ := ends
  obtain rfl := Option.some.inj (served.found.symm.trans found)
  cases stage with
  | closingSource =>
    cases ending
    exact returnsAtLast orderly kept fair served .closingSource
  | closing =>
    cases ending
    exact returnsAtLast orderly kept fair served .closing
  | aborting =>
    cases ending
    exact @leavesAtLast _ _ _ _ orderly kept fair 0 served
  | returned =>
    cases ending
    exact ⟨0, found⟩
  | taking | withoutSource | subscribing | checking | looping | cancelled => cases ending

theorem acceptLoopStops {setup : Setup} {s₀ : State} (made : create setup = .ok s₀) {before after : List Event}
    {i seen : Nat} (loops : (s₀.run before).serves[i]? = some (.looping seen))
    (quiet : (s₀.run before).signals ≤ seen) (kept : .cancelServe i ∉ after)
    (handled : Handled s₀ (before ++ after)) : AcceptLoop s₀ before i seen after := by
  obtain ⟨stage, served⟩ := servedRun made loops kept
  have orderly : Orderly (s₀.run (before ++ after)) :=
    ⟨closableRun (closableCreated made) _, _, custodyRun made _⟩
  refine ⟨courseRun made loops quiet kept, served.alone.workers, signalledDeaf,
    fun result schedule done fair uncancelled => ?_, fun result returned closes => ?_⟩
  · rcases done with ends | ⟨signalled, ok⟩
    · exact endsReturn orderly uncancelled fair served ends
    · obtain rfl := Option.some.inj (served.found.symm.trans signalled.loops)
      exact returnsAtLast orderly uncancelled fair served (.looping signalled.unheard ok)
  · obtain rfl := Option.some.inj (served.found.symm.trans returned)
    exact stopped made handled served closes

def turnByTurn (i n : Nat) : Event :=
  match (Nat.unpair n).1 with
  | 0 => .serveStep i
  | j + 1 => .workerStep j

theorem turnByTurnFair (i : Nat) : Progress.Fair fun n => duty i (turnByTurn i n) := by
  intro d n
  cases d with
  | serve => exact ⟨Nat.pair 0 n, Nat.right_le_pair 0 n, by simp [turnByTurn, duty]⟩
  | worker j => exact ⟨Nat.pair (j + 1) n, Nat.right_le_pair (j + 1) n, by simp [turnByTurn, duty]⟩

theorem turnByTurnKept (i n : Nat) : turnByTurn i n ≠ .cancelServe i := by
  unfold turnByTurn
  split <;> nofun

def pairLooping : List Event := [.register [65], .registerDefault, .beginServe, .serveStep 0, .serveStep 0, .serveStep 0]

def pairFailing : List Event :=
  [.accepted 0 ⟨7, ⟨.v4 10 0 0 1, 5000⟩⟩, .acceptFailed 0 (.io ⟨.connectionReset, none⟩),
    .accepted 0 ⟨8, ⟨.v4 10 0 0 2, 5000⟩⟩, .workerRead 0 (.done [65, 66]), .workerStep 0, .workerStep 0,
    .workerRead 1 (.done [65]), .acceptFailed 0 (.io ⟨.permissionDenied, none⟩),
    .accepted 0 ⟨9, ⟨.v4 10 0 0 3, 5000⟩⟩] ++ List.replicate 11 (.serveStep 0) ++ [.workerStep 0, .serveStep 0]

def pairSignalled : List Event :=
  [.beginClose, .closeStep 0, .accepted 0 ⟨7, ⟨.v4 10 0 0 1, 5000⟩⟩, .closeStep 0,
    .accepted 0 ⟨8, ⟨.v4 10 0 0 2, 5000⟩⟩]

theorem pairStops :
    create pairSetup = .ok { setup := pairSetup } ∧
      (AcceptLoop { setup := pairSetup } pairLooping 0 0 pairFailing ∧
        (run { setup := pairSetup } (pairLooping ++ pairFailing)).serves =
          [.returned (.error (.accept ⟨.permissionDenied, none⟩))] ∧
        Stopped { setup := pairSetup } (pairLooping ++ pairFailing)) ∧
      AcceptLoop { setup := pairSetup } pairLooping 0 0 pairSignalled ∧
        Signalled (run { setup := pairSetup } (pairLooping ++ pairSignalled)) 0 0 ∧
        ∃ n, ((run { setup := pairSetup } (pairLooping ++ pairSignalled)).follow (turnByTurn 0) n).serves[0]? =
          some (.returned (.ok ())) := by
  have made : create pairSetup = .ok { setup := pairSetup } := rfl
  have failing : AcceptLoop { setup := pairSetup } pairLooping 0 0 pairFailing :=
    acceptLoopStops made rfl (by decide) (by simp [pairFailing]) (handledPresent (by simp [pairLooping, pairFailing]))
  have signalled : AcceptLoop { setup := pairSetup } pairLooping 0 0 pairSignalled :=
    acceptLoopStops made rfl (by decide) (by simp [pairSignalled]) (handledPresent (by simp [pairLooping, pairSignalled]))
  have unheard : Signalled (run { setup := pairSetup } (pairLooping ++ pairSignalled)) 0 0 := ⟨rfl, by decide⟩
  refine ⟨made, ⟨failing, rfl, failing.stopped _ rfl (by decide)⟩, signalled, unheard, ?_⟩
  exact signalled.returns _ _ (.inr ⟨unheard, rfl⟩) (turnByTurnFair 0) (turnByTurnKept 0)

end SharedPort.Selector.State
