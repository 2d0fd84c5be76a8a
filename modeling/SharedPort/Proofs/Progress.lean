/-! What fair turns bring about. Somebody is due at every moment before the goal: its own turn brings the goal nearer,
and the turns of the others at least leave it due. -/
namespace SharedPort.Progress
variable {σ δ ρ : Type}

/- What one turn does towards a goal, when `d` is due and `r` says how far the goal is. -/
inductive Nears (less : ρ → ρ → Prop) (due : ρ → δ → σ → Prop) (goal : σ → Prop) (turn : Option δ) (next : σ) (r : ρ)
    (d : δ) : Prop where
  | reached (goal : goal next)
  | nearer {r' d'} (less : less r' r) (next : due r' d' next)
  | rest (other : turn ≠ some d) (still : due r d next)

def Fair (turns : Nat → Option δ) : Prop := ∀ d n, ∃ m, n ≤ m ∧ turns m = some d

theorem keptFrom {p : σ → Prop} {states : Nat → σ} {m n : Nat} (keeps : ∀ n, p (states n) → p (states (n + 1)))
    (later : m ≤ n) (here : p (states m)) : p (states n) := by
  induction later with
  | refl => exact here
  | step _ ih => exact keeps _ ih

theorem reached {less : ρ → ρ → Prop} (founded : WellFounded less) {states : Nat → σ} {turns : Nat → Option δ}
    (fair : Fair turns) {due : ρ → δ → σ → Prop} {goal : σ → Prop}
    (nears : ∀ r d n, due r d (states n) → Nears less due goal (turns n) (states (n + 1)) r d) (r : ρ) :
    ∀ d n, due r d (states n) → ∃ m, n ≤ m ∧ goal (states m) := by
  induction r using founded.induction with
  | _ r ih =>
    intro d n here
    obtain ⟨m, later, event⟩ := fair d n
    obtain ⟨k, rfl⟩ := Nat.exists_eq_add_of_le later
    -- Until the turn of the one who is due, either something happens or all is due as it was.
    have meanwhile : ∀ j, (∃ m, n ≤ m ∧ goal (states m)) ∨ due r d (states (n + j)) := by
      intro j
      induction j with
      | zero => exact .inr here
      | succ j before =>
        rcases before with reached | still
        · exact .inl reached
        · cases nears r d (n + j) still with
          | reached goal => exact .inl ⟨n + j + 1, by omega, goal⟩
          | nearer lower next =>
            obtain ⟨m, later, goal⟩ := ih _ lower _ _ next
            exact .inl ⟨m, by omega, goal⟩
          | rest _ still => exact .inr still
    rcases meanwhile k with reached | still
    · exact reached
    · cases nears r d (n + k) still with
      | reached goal => exact ⟨n + k + 1, by omega, goal⟩
      | nearer lower next =>
        obtain ⟨m, later, goal⟩ := ih _ lower _ _ next
        exact ⟨m, by omega, goal⟩
      | rest other => exact (other event).elim

end SharedPort.Progress
