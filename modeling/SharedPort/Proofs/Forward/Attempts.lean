import SharedPort.Proofs.Forward.Rounds
import SharedPort.Proofs.Stream.Limited

/-! The rounds under the clock as one attempt after the other. If the streams have only so much to give, a round tries a
direction until it is not ready or done for, and no attempt is made behind an answer. -/
namespace SharedPort.Forward
open SharedPort.Stream (Attempt Duplex Limited Wake)

def Phase.Active (p : Phase) : Prop := p ≠ .finished ∧ ∀ cause, p ≠ .failed cause

/- A bound on the attempts of a direction that are ready, but for the bytes it has yet to read. -/
def Phase.load : Phase → Nat
  | .reading => 2
  | .writing _ rest => rest.length + 3
  | .ending => 1
  | .finished | .failed _ => 0

theorem onReadLoad (total : Nat) (attempt : Attempt Bytes) :
    (Direction.onRead ⟨.reading, total⟩ attempt).phase.load ≤ 3 * attempt.size + 2 ∧
      (wakeOf attempt = none → (Direction.onRead ⟨.reading, total⟩ attempt).phase.load < 3 * attempt.size + 2) := by
  cases attempt with
  | done bytes =>
    cases bytes with
    | nil => simp [Direction.onRead, Phase.load]
    | cons b bytes =>
      simp only [Direction.onRead, Phase.load, Attempt.size, List.length_cons]
      omega
  | failed | notReady => simp [Direction.onRead, Direction.fail, Phase.load, wakeOf]

theorem onWriteLoad (d : Direction) (size : Nat) (rest : Bytes) (attempt : Attempt Nat)
    (phase : d.phase = .writing size rest) : (d.onWrite size rest attempt).phase.load ≤ rest.length + 3 ∧
      (wakeOf attempt = none → (d.onWrite size rest attempt).phase.load < rest.length + 3) := by
  cases attempt with
  | done n =>
    cases n with
    | zero => simp [Direction.onWrite, Direction.fail, Phase.load]
    | succ n =>
      simp only [Direction.onWrite]
      split
      · simp only [Phase.load]
        omega
      · rename_i more
        have positive : 0 < (rest.drop (n + 1)).length := List.length_pos_iff.mpr (by simpa using more)
        simp only [Phase.load]
        rw [List.length_drop] at positive ⊢
        omega
  | failed | notReady => simp [Direction.onWrite, Direction.fail, Phase.load, wakeOf, phase]

theorem wakeOfSome {α : Type} {attempt : Attempt α} {wake : Wake} (waits : wakeOf attempt = some wake) :
    attempt = .notReady wake := by
  cases attempt with
  | done | failed => cases waits
  | notReady => exact congrArg _ (Option.some.inj waits)

variable {σ τ : Type} [Duplex σ] [Duplex τ]

theorem laneWaits {lane : Lane σ τ} {now room : Nat} {wake : Wake} (waits : (lane.step now room).1 = some wake) :
    (lane.step now room).2.direction = lane.direction := by
  obtain ⟨source, target, phase, total⟩ := lane
  cases phase with
  | reading => exact congrArg (Direction.onRead ⟨.reading, total⟩) (wakeOfSome waits)
  | writing size rest => exact congrArg (Direction.onWrite ⟨.writing size rest, total⟩ size rest) (wakeOfSome waits)
  | ending => exact congrArg (Direction.onShutdown ⟨.ending, total⟩) (wakeOfSome waits)
  | finished | failed => cases waits

namespace Exchange

/- Attempts, in any order of the directions, as long as there is no answer. -/
inductive Tries (room : Nat) : Exchange σ τ → List Turn → Exchange σ τ → Prop where
  | none {x} : Tries room x [] x
  | one {x y t turns} (isOpen : x.answer = none) (rest : Tries room (x.stepSide t.side t.now room).2 turns y) :
      Tries room x (t :: turns) y

theorem Tries.trans {room : Nat} {x y z : Exchange σ τ} {turns more : List Turn} (first : Tries room x turns y)
    (second : Tries room y more z) : Tries room x (turns ++ more) z := by
  induction first with
  | none => exact second
  | one isOpen _ ih => exact .one isOpen (ih second)

omit [Duplex σ] [Duplex τ] in
theorem notFailed {x : Exchange σ τ} (isOpen : x.answer = none) (side : Bool) (cause : IoError) :
    x.phase side ≠ .failed cause := by
  unfold answer at isOpen
  cases side <;> simp only [phase] <;> grind

theorem stepOther (side : Bool) (now room : Nat) (x : Exchange σ τ) :
    (x.stepSide side now room).2.phase (!side) = x.phase (!side) := by
  cases side <;> rfl

def Alone (x : Exchange σ τ) : Prop :=
  ∀ side cause, x.phase side = .failed cause → ∀ other, x.phase (!side) ≠ .failed other

omit [Duplex σ] [Duplex τ] in
theorem openAlone {x : Exchange σ τ} (isOpen : x.answer = none) : x.Alone := fun side cause fails =>
  (notFailed isOpen side cause fails).elim

theorem stepAlone {x : Exchange σ τ} (side : Bool) (now room : Nat) (isOpen : x.answer = none) :
    (x.stepSide side now room).2.Alone := by
  intro b cause fails other
  by_cases same : b = side
  · rw [same, stepOther]
    exact notFailed isOpen _ other
  · obtain rfl : b = !side := by cases b <;> cases side <;> simp_all
    rw [stepOther] at fails
    exact (notFailed isOpen _ cause fails).elim

theorem Tries.alone {room : Nat} {x y : Exchange σ τ} {turns : List Turn} (tries : Tries room x turns y)
    (alone : x.Alone) : y.Alone := by
  induction tries with
  | none => exact alone
  | one isOpen _ ih => exact ih (stepAlone _ _ room isOpen)

omit [Duplex σ] [Duplex τ] in
theorem answerActive {x : Exchange σ τ} {side : Bool} (active : (x.phase side).Active)
    (well : ∀ cause, x.phase (!side) ≠ .failed cause) : x.answer = none := by
  unfold answer
  cases side <;> simp only [phase, Phase.Active] at active well <;> grind

omit [Duplex σ] [Duplex τ] in
theorem answerFailed {x : Exchange σ τ} {side : Bool} {cause : IoError} (fails : x.phase side = .failed cause)
    (well : ∀ other, x.phase (!side) ≠ .failed other) : x.answer = some (.error cause) := by
  unfold answer
  cases side <;> simp only [phase] at fails well <;> grind

omit [Duplex σ] [Duplex τ] in
theorem failedSide {x : Exchange σ τ} {cause : IoError} (answered : x.answer = some (.error cause)) :
    ∃ side, x.phase side = .failed cause := by
  unfold answer at answered
  split at answered
  · rename_i up
    cases answered
    exact ⟨true, up⟩
  · rename_i down _
    cases answered
    exact ⟨false, down⟩
  · cases answered
  · cases answered

theorem runSideFailed {x : Exchange σ τ} {side : Bool} {cause : IoError} (now room fuel : Nat)
    (fails : x.phase side = .failed cause) : x.runSide side now room (fuel + 1) = (x, .failed cause) := by
  cases side with
  | true =>
    have fails : x.up.phase = .failed cause := fails
    simp [runSide, runUp, Lane.run, fails]
  | false =>
    have fails : x.down.phase = .failed cause := fails
    simp [runSide, runDown, Lane.run, fails]

inductive Shown : Progress → Phase → Prop where
  | finished : Shown .finished .finished
  | failed {cause} : Shown (.failed cause) (.failed cause)
  | waiting {wake p} (active : p.Active) : Shown (.waiting wake) p

omit [Duplex σ] [Duplex τ] in
theorem Shown.well {p : Progress} {phase : Phase} (shown : Shown p phase) (well : ∀ cause, p ≠ .failed cause)
    (cause : IoError) : phase ≠ .failed cause := by
  cases shown with
  | finished => exact Phase.noConfusion
  | failed => exact (well _ rfl).elim
  | waiting active => exact active.2 cause

def answerOf (x : Exchange σ τ) : Except IoError (Option Wake) → Option (Except IoError (Nat × Nat))
  | .error cause => some (.error cause)
  | .ok none => some (.ok (x.up.total, x.down.total))
  | .ok (some _) => none

omit [Duplex σ] [Duplex τ] in
theorem answerShown {x : Exchange σ τ} {p q : Progress} (side : Bool) (first : Shown p (x.phase side))
    (second : Shown q (x.phase (!side))) (well : ∀ cause, p ≠ .failed cause) :
    x.answer = x.answerOf (verdict p q) := by
  obtain ⟨client, target, ⟨upPhase, upTotal⟩, ⟨downPhase, downTotal⟩⟩ := x
  cases side <;> dsimp only [phase, Bool.not_true, Bool.not_false] at first second <;> cases first <;> cases second <;>
    simp_all [answer, answerOf, verdict, Phase.Active]

theorem roundFails {x y : Exchange σ τ} {cause : IoError} {now room fuel : Nat} {upFirst : Bool}
    (first : x.runSide upFirst now room fuel = (y, .failed cause)) :
    x.round upFirst now room fuel = (y, .failed cause, .failed cause) := by
  cases upFirst with
  | true =>
    change x.runUp now room fuel = _ at first
    simp only [round, if_true, first]
  | false =>
    change x.runDown now room fuel = _ at first
    simp only [round, Bool.false_eq_true, if_false, first]

def Outcome.answer : Outcome → Option (Except IoError (Nat × Nat))
  | .finished up down => some (.ok (up, down))
  | .failed cause => some (.error cause)
  | .unfinished => none

theorem stepWaits (side : Bool) (now room : Nat) (x : Exchange σ τ) (wake : Wake)
    (waits : (x.stepSide side now room).1 = some wake) : (x.stepSide side now room).2.phase side = x.phase side := by
  cases side with
  | true => exact congrArg Direction.phase (laneWaits waits)
  | false => exact congrArg Direction.phase (laneWaits waits)

end Exchange

variable [Limited σ] [Limited τ]

def Lane.load (lane : Lane σ τ) : Nat :=
  3 * (Limited.supply lane.source + Limited.supply lane.target) + lane.direction.phase.load

theorem laneLoad (now room : Nat) (lane : Lane σ τ) : (lane.step now room).2.load ≤ lane.load ∧
    (lane.direction.phase.Active → (lane.step now room).1 = none → (lane.step now room).2.load < lane.load) := by
  obtain ⟨source, target, phase, total⟩ := lane
  cases phase with
  | reading =>
    have less := Limited.read now room source
    obtain ⟨most, strict⟩ := onReadLoad total (Duplex.read now room source).1
    refine ⟨?_, fun _ ready => ?_⟩
    · simp only [Lane.load, Lane.step, Phase.load] at most ⊢
      omega
    · have strict := strict ready
      simp only [Lane.load, Lane.step, Phase.load] at strict ⊢
      omega
  | writing size rest =>
    have less := Limited.write now rest target
    obtain ⟨most, strict⟩ := onWriteLoad ⟨.writing size rest, total⟩ size rest (Duplex.write now rest target).1 rfl
    refine ⟨?_, fun _ ready => ?_⟩
    · simp only [Lane.load, Lane.step, Phase.load] at most ⊢
      omega
    · have strict := strict ready
      simp only [Lane.load, Lane.step, Phase.load] at strict ⊢
      omega
  | ending =>
    have less := Limited.shutdown now target
    simp only [Lane.load, Lane.step, Phase.load]
    generalize (Duplex.shutdown now target).1 = attempt
    cases attempt with
    | done | failed =>
      simp only [Direction.onShutdown]
      exact ⟨by omega, fun _ _ => by omega⟩
    | notReady wake => exact ⟨by simp only [Direction.onShutdown]; omega, fun _ ready => by cases ready⟩
  | finished => exact ⟨Nat.le_refl _, fun active => (active.1 rfl).elim⟩
  | failed cause => exact ⟨Nat.le_refl _, fun active => (active.2 cause rfl).elim⟩

namespace Exchange

def load (x : Exchange σ τ) : Nat :=
  3 * (Limited.supply x.client + Limited.supply x.target) + x.up.phase.load + x.down.phase.load

theorem stepLoad (side : Bool) (now room : Nat) (x : Exchange σ τ) :
    (x.stepSide side now room).2.load ≤ x.load ∧ ((x.phase side).Active → (x.stepSide side now room).1 = none →
      (x.stepSide side now room).2.load < x.load) := by
  cases side with
  | true =>
    obtain ⟨most, strict⟩ := laneLoad now room ⟨x.client, x.target, x.up⟩
    simp only [Lane.load] at most strict
    simp only [stepSide, load, phase]
    exact ⟨by omega, fun active ready => by have := strict active ready; omega⟩
  | false =>
    obtain ⟨most, strict⟩ := laneLoad now room ⟨x.target, x.client, x.down⟩
    simp only [Lane.load] at most strict
    simp only [stepSide, load, phase]
    exact ⟨by omega, fun active ready => by have := strict active ready; omega⟩

theorem runTries {x : Exchange σ τ} (side : Bool) (now room : Nat) {fuel : Nat}
    (well : ∀ cause, x.phase (!side) ≠ .failed cause) (enough : x.load < fuel) :
    ∃ turns y p, x.runSide side now room fuel = (y, p) ∧ Tries room x turns y ∧ y.load ≤ x.load ∧
      y.phase (!side) = x.phase (!side) ∧ Shown p (y.phase side) := by
  induction fuel generalizing x with
  | zero => omega
  | succ fuel ih =>
    by_cases isDone : x.phase side = .finished
    · exact ⟨[], x, .finished, runSideFinished now room fuel isDone, .none, Nat.le_refl _, rfl, isDone ▸ .finished⟩
    by_cases fails : ∃ cause, x.phase side = .failed cause
    · obtain ⟨cause, fails⟩ := fails
      exact ⟨[], x, .failed cause, runSideFailed now room fuel fails, .none, Nat.le_refl _, rfl, fails ▸ .failed⟩
    have active : (x.phase side).Active := ⟨isDone, not_exists.mp fails⟩
    have isOpen := answerActive active well
    obtain ⟨most, strict⟩ := stepLoad side now room x
    have other := stepOther side now room x
    have waits := stepWaits side now room x
    obtain ⟨wake, y, attempt⟩ : ∃ wake y, x.stepSide side now room = (wake, y) := ⟨_, _, rfl⟩
    have made {turns z} (rest : Tries room y turns z) : Tries room x (⟨side, now⟩ :: turns) z :=
      .one isOpen (by rwa [attempt])
    rw [attempt] at most strict other waits
    rw [runSideStep isDone active.2 attempt]
    cases wake with
    | some wake =>
      exact ⟨_, y, .waiting wake, rfl, made .none, most, other, .waiting (waits wake rfl ▸ active)⟩
    | none =>
      obtain ⟨turns, z, p, run, tries, less, kept, shown⟩ := ih (other ▸ well)
        (Nat.lt_of_lt_of_le (strict active rfl) (Nat.le_of_lt_succ enough))
      exact ⟨_, z, p, run, made tries, less.trans most, kept.trans other, shown⟩

theorem roundTries {x : Exchange σ τ} (upFirst : Bool) (now room : Nat) {fuel : Nat} (isOpen : x.answer = none)
    (enough : x.load < fuel) : ∃ turns y p q, x.round upFirst now room fuel = (y, p, q) ∧ Tries room x turns y ∧
      y.load ≤ x.load ∧ y.answer = y.answerOf (verdict p q) := by
  obtain ⟨turns, y, p, run, tries, less, kept, first⟩ := runTries upFirst now room (notFailed isOpen _) enough
  by_cases fails : ∃ cause, p = .failed cause
  · obtain ⟨cause, rfl⟩ := fails
    refine ⟨turns, y, _, _, roundFails run, tries, less, ?_⟩
    generalize isPhase : y.phase upFirst = phase at first
    cases first with
    | failed => exact answerFailed isPhase (kept ▸ notFailed isOpen _)
  · have well := not_exists.mp fails
    -- The second direction finds the first one where it stopped.
    obtain ⟨more, z, q, again, others, lower, same, second⟩ := runTries (!upFirst) now room
      (by rw [Bool.not_not]; exact first.well well) (Nat.lt_of_le_of_lt less enough)
    rw [Bool.not_not] at same
    exact ⟨turns ++ more, z, p, q, roundRun well run again, tries.trans others, lower.trans less,
      answerShown upFirst (same ▸ first) second well⟩

theorem roundsTry {x : Exchange σ τ} {room steps : Nat} (limit fuel : Nat) (upFirst : Bool) (now : Nat)
    (isOpen : x.answer = none) (enough : x.load < steps) : ∃ turns y outcome,
      rounds limit room steps fuel upFirst now x = (y, outcome) ∧ Tries room x turns y ∧ y.answer = outcome.answer := by
  induction fuel generalizing x upFirst now with
  | zero => exact ⟨[], x, .unfinished, rfl, .none, isOpen⟩
  | succ fuel ih =>
    obtain ⟨turns, y, p, q, round, tries, less, answers⟩ := roundTries upFirst now room isOpen enough
    simp only [rounds, round]
    generalize verdict p q = result at answers ⊢
    cases result with
    | error cause => exact ⟨turns, y, .failed cause, rfl, tries, answers⟩
    | ok wake =>
      cases wake with
      | none => exact ⟨turns, y, .finished y.up.total y.down.total, rfl, tries, answers⟩
      | some wake =>
        dsimp only
        cases Stream.nextTry (some limit) now wake with
        | error stop => exact ⟨turns, y, .unfinished, rfl, tries, answers⟩
        | ok time =>
          obtain ⟨more, z, outcome, run, others, last⟩ := ih (!upFirst) (max now time) answers
            (Nat.lt_of_le_of_lt less enough)
          exact ⟨turns ++ more, z, outcome, run, tries.trans others, last⟩

end Exchange

end SharedPort.Forward
