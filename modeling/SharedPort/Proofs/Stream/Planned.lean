import SharedPort.Stream.Replay

/-! A reader of a prefix between two attempts. What it does next and when is settled by its last attempt, so its whole
reading is made of single attempts, each with a plan for the next one. -/
namespace SharedPort.Stream

/- When a reader tries again, or at what time it gives up; an idle one does neither. -/
inductive Plan
  | again (time : Nat)
  | late (time : Nat)
  | idle
  deriving DecidableEq

def planned (limit : Option Nat) (now : Nat) : Attempt Bytes → Plan
  | .notReady wake =>
      match nextTry limit now wake with
      | .ok time => .again (max now time)
      | .error .timedOut => .late (stopTime limit now)
      | .error _ => .idle
  | .done _ | .failed _ => .again now

structure Reader (σ : Type) where
  read : ReadOp σ
  fits : ∀ now room s, (read now room s).1.fits room = true

theorem Plan.later {limit : Option Nat} {now time : Nat} {attempt : Attempt Bytes}
    (plan : planned limit now attempt = .again time) : now ≤ time := by
  unfold planned at plan
  split at plan
  · split at plan
    · cases plan
      exact Nat.le_max_left _ _
    · cases plan
    · cases plan
  · cases plan
    exact Nat.le_refl _
  · cases plan
    exact Nat.le_refl _

theorem Plan.limited {limit : Option Nat} {now time : Nat} {attempt : Attempt Bytes}
    (plan : planned limit now attempt = .late time) : now ≤ time ∧ ∃ bound, limit = some bound ∧ bound ≤ time := by
  unfold planned at plan
  split at plan
  · split at plan
    · cases plan
    · rename_i stops
      cases plan
      cases limit with
      | none =>
        unfold nextTry at stops
        split at stops <;> cases stops
      | some bound => exact ⟨Nat.le_max_left _ _, bound, rfl, Nat.le_max_right _ _⟩
    · cases plan
  · cases plan
  · cases plan

theorem Plan.ready {limit : Option Nat} {now missing : Nat} {got : Bytes} {attempt : Attempt Bytes}
    (done : ∀ missing' got', Gather.feed missing got attempt ≠ .reading missing' got') :
    planned limit now attempt = .again now := by
  cases attempt with
  | notReady wake => exact (done _ _ rfl).elim
  | done | failed => rfl

variable {σ : Type} {read : ReadOp σ} {limit : Option Nat} {now missing : Nat} {got : Bytes} {s : σ}

/- One attempt and what is planned after it make up the rest of the reading. -/
theorem gatherTry (fuel : Nat) : gather read limit (fuel + 1) now (.reading missing got) s =
    match planned limit now (read now missing s).1 with
    | .again time => gather read limit fuel time (Gather.feed missing got (read now missing s).1) (read now missing s).2
    | .late time => ⟨.error .timedOut, time, (read now missing s).2⟩
    | .idle => ⟨.error .stuck, now, (read now missing s).2⟩ := by
  rw [gather]
  obtain ⟨attempt, rest⟩ := read now missing s
  cases attempt with
  | done bytes => rfl
  | failed cause => rfl
  | notReady wake =>
    simp only [planned, Gather.feed]
    cases next : nextTry limit now wake with
    | ok time => rfl
    | error stop =>
      cases stop with
      | timedOut => rfl
      | stuck => rfl
      | failed cause =>
        unfold nextTry at next
        split at next <;> split at next <;> try cases next
        all_goals split at next <;> cases next

theorem gatherComplete (fuel : Nat) (header : Bytes) :
    gather read limit fuel now (.complete header) s = ⟨.ok header, now, s⟩ := by
  cases fuel <;> rfl

theorem gatherFailed (fuel : Nat) (cause : IoError) :
    gather read limit fuel now (.failed cause) s = ⟨.error (.failed cause), now, s⟩ := by
  cases fuel <;> rfl

theorem gatherLater (fuel : Nat) {machine : Gather} : now ≤ (gather read limit fuel now machine s).now := by
  induction fuel generalizing now machine s with
  | zero =>
    cases machine with
    | reading missing got => exact Nat.le_refl _
    | complete header => exact Nat.le_refl _
    | failed cause => exact Nat.le_refl _
  | succ fuel ih =>
    cases machine with
    | complete header => exact Nat.le_refl _
    | failed cause => exact Nat.le_refl _
    | reading missing got =>
      rw [gatherTry]
      cases plan : planned limit now (read now missing s).1 with
      | again time => exact Nat.le_trans (Plan.later plan) ih
      | late time => exact (Plan.limited plan).1
      | idle => exact Nat.le_refl _

end SharedPort.Stream
