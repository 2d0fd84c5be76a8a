import Mathlib.Tactic.ByContra
import SharedPort.Text.Unicode

/-! Which texts become ASCII in small letters. The Kelvin sign is the one letter outside ASCII whose small form lies
inside, so what becomes a word of ASCII without a k is of ASCII itself, and only the case of its letters is lost. -/
namespace SharedPort.Lowercase

/- A character that is the small form of none outside ASCII. -/
def Plain (c : Char) : Prop := c.toNat < 0x80 ∧ c ≠ 'k'

instance : DecidablePred Plain := fun c => inferInstanceAs (Decidable (c.toNat < 0x80 ∧ c ≠ 'k'))

def isPlain (word : String) : Bool := word.toList.all fun c => decide (Plain c)

/- The runs lead to characters outside ASCII, all but that of the Kelvin sign. -/
theorem runsOutside : ∀ r ∈ runs, r.first = 0x212A ∧ r.last = 0x212A ∨
    0x80 ≤ r.small ∧ (r.small + (r.last - r.first) < 0xD800 ∨
      0xDFFF < r.small ∧ r.small + (r.last - r.first) < 0x110000) := by decide +kernel

theorem runSmall {r : Run} (member : r ∈ runs) {n m : Nat} (other : n ≠ 0x212A) (small : r.small? n = some m) :
    0x80 ≤ m ∧ m.isValidChar := by
  unfold Run.small? at small
  split at small
  · rename_i inside
    cases small
    have valid := runsOutside r member
    unfold Nat.isValidChar
    omega
  · cases small

theorem smallOutside {c : Char} (outside : 0x80 ≤ c.toNat) (other : c ≠ '\u212a') : ∃ d ∈ small c, 0x80 ≤ d.toNat := by
  have inside : ¬ c.toNat < 0x80 := Nat.not_lt.mpr outside
  unfold small
  rw [if_neg inside]
  split
  · exact ⟨'\u0307', by simp, by decide⟩
  · split
    · rename_i m found
      obtain ⟨r, member, small⟩ := List.exists_of_findSome?_eq_some found
      obtain ⟨beyond, valid⟩ := runSmall member (fun same => other (Char.toNat_inj.mp same)) small
      have number : (Char.ofNat m).toNat = m := by
        rw [Char.ofNat, dif_pos valid]
        rfl
      exact ⟨Char.ofNat m, List.mem_singleton_self _, by rwa [number]⟩
    · exact ⟨c, List.mem_singleton_self c, outside⟩

theorem smallPlain {c : Char} (plain : ∀ d ∈ small c, Plain d) : c.toNat < 0x80 := by
  by_contra inside
  by_cases kelvin : c = '\u212a'
  · subst kelvin
    exact (plain 'k' (by decide +kernel)).2 rfl
  · obtain ⟨d, member, outside⟩ := smallOutside (Nat.not_lt.mp inside) kelvin
    exact absurd (plain d member).1 (Nat.not_lt.mpr outside)

theorem sigmaOutside (before after : List Char) : ¬ Plain (smallSigma before after) := by
  unfold smallSigma
  split <;> decide

theorem toLowerInside {c : Char} (inside : c.toLower.toNat < 0x80) : c.toNat < 0x80 := by
  by_cases capital : c.val ≥ 'A'.val ∧ c.val ≤ 'Z'.val
  · have small : c.toNat ≤ 'Z'.toNat := capital.2
    exact Nat.lt_of_le_of_lt small (by decide)
  · have same : c.toLower = c := dif_neg capital
    rwa [same] at inside

variable {before text : List Char}

theorem lowerInside (inside : ∀ c ∈ text, c.toNat < 0x80) : lowerFrom before text = text.map Char.toLower := by
  induction text generalizing before with
  | nil => rfl
  | cons c text ih =>
    obtain ⟨first, others⟩ := List.forall_mem_cons.mp inside
    have letter : c ≠ '\u03a3' := by
      rintro rfl
      exact absurd first (by decide)
    rw [lowerFrom, if_neg letter, small, if_pos first, ih others, List.map_cons, List.singleton_append]

theorem lowerPlain (plain : ∀ d ∈ lowerFrom before text, Plain d) : ∀ c ∈ text, c.toNat < 0x80 := by
  induction text generalizing before with
  | nil => exact fun c member => absurd member List.not_mem_nil
  | cons c text ih =>
    rw [lowerFrom] at plain
    obtain ⟨first, others⟩ := List.forall_mem_append.mp plain
    refine List.forall_mem_cons.mpr ⟨?_, ih others⟩
    split at first
    · exact absurd (first _ (List.mem_singleton_self _)) (sigmaOutside _ _)
    · exact smallPlain first

/- `f` is what happens to the small letters before they are compared with the word. -/
theorem lowerSame {f : Char → Char} (kept : ∀ c, Plain (f c) → Plain c) {word : String}
    (plain : isPlain word = true) (text : String) : (lower text).map f = word ↔ text.toLower.map f = word := by
  have letters : ∀ c ∈ word.toList, Plain c := fun c member => of_decide_eq_true (List.all_eq_true.mp plain c member)
  have same : (∀ c ∈ text.toList, c.toNat < 0x80) → lower text = text.toLower := by
    intro inside
    rw [lower, lowerInside inside, ← String.toList_map, String.ofList_toList]
    rfl
  have back : ∀ s : String, s.map f = word → ∀ c ∈ s.toList, Plain c := by
    rintro s rfl c member
    rw [String.toList_map] at letters
    exact kept c (letters _ (List.mem_map_of_mem member))
  constructor
  · intro small
    have chars := back _ small
    rw [lower, String.toList_ofList] at chars
    rwa [← same (lowerPlain chars)]
  · intro small
    have inside : ∀ c ∈ text.toList, c.toNat < 0x80 := by
      intro c member
      have chars : ∀ c ∈ (text.map Char.toLower).toList, Plain c := back _ small
      rw [String.toList_map] at chars
      exact toLowerInside (chars _ (List.mem_map_of_mem member)).1
    rwa [same inside]

example : lower "\u212a" = "k" ∧ "\u212a".toLower ≠ "k" := by decide +kernel

end SharedPort.Lowercase
