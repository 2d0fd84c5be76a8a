import Mathlib.Tactic.SplitIfs
import SharedPort.Text.Basic

/-! A quoted text says what it quotes. No character is written like the beginning of another, and the closing quote like
none, so that two quoted texts in front of any rest are the same only where text and rest are. -/
namespace SharedPort.Quoted

theorem hexDigit {c : Char} {n : Nat} (digit : c ∈ hex n) : ∃ d < 16, c = Nat.digitChar d := by
  induction n using Nat.strongRecOn with
  | ind n ih =>
    rw [hex, Nat.toDigits_eq_if (by decide)] at digit
    split at digit
    case isTrue small => exact ⟨n, small, List.mem_singleton.mp digit⟩
    case isFalse large =>
      rcases List.mem_append.mp digit with front | last
      · exact ih (n / 16) (Nat.div_lt_self (by omega) (by decide)) front
      · exact ⟨n % 16, Nat.mod_lt n (by decide), List.mem_singleton.mp last⟩

theorem hexUnbraced (n : Nat) : '\x7d' ∉ hex n := by
  intro digit
  obtain ⟨d, small, same⟩ := hexDigit digit
  have none : ∀ d < 16, '\x7d' ≠ Nat.digitChar d := by decide
  exact none d small same

theorem hexSame {m n : Nat} (same : hex m = hex n) : m = n := by
  have digits : ∀ m < 16, ∀ n < 16, Nat.digitChar m = Nat.digitChar n → m = n := by decide
  have longer (k : Nat) (c : Char) : [c] ≠ hex (k / 16) ++ [Nat.digitChar (k % 16)] := by
    intro eq
    have lengths := congrArg List.length eq
    have front : 0 < (hex (k / 16)).length := List.length_pos_iff.mpr Nat.toDigits_ne_nil
    simp only [List.length_append, List.length_singleton] at lengths
    omega
  induction m using Nat.strongRecOn generalizing n with
  | ind m ih =>
    rw [hex, hex, Nat.toDigits_eq_if (by decide), Nat.toDigits_eq_if (n := n) (by decide)] at same
    split at same <;> rename_i firstSize <;> split at same <;> rename_i secondSize
    · exact digits m firstSize n secondSize (List.singleton_inj.mp same)
    · exact absurd same (longer n _)
    · exact absurd same.symm (longer m _)
    · obtain ⟨front, last⟩ := List.append_inj' same rfl
      have quotient := ih (m / 16) (Nat.div_lt_self (by omega) (by decide)) front
      have remainder := digits _ (Nat.mod_lt m (by decide)) _ (Nat.mod_lt n (by decide)) (List.singleton_inj.mp last)
      omega

theorem bracedSame {m n : Nat} {r s : List Char} (same : hex m ++ '\x7d' :: r = hex n ++ '\x7d' :: s) :
    m = n ∧ r = s := by
  rcases List.append_eq_append_iff.mp same with ⟨more, whole, rest⟩ | ⟨more, whole, rest⟩
  · cases more with
    | nil => exact ⟨hexSame (by simpa using whole.symm), by simpa using rest⟩
    | cons c more =>
      obtain ⟨rfl, _⟩ := List.cons.inj rest
      exact absurd (whole ▸ List.mem_append_right _ List.mem_cons_self) (hexUnbraced n)
  · cases more with
    | nil => exact ⟨hexSame (by simpa using whole), by simpa using rest.symm⟩
    | cons c more =>
      obtain ⟨rfl, _⟩ := List.cons.inj rest
      exact absurd (whole ▸ List.mem_append_right _ List.mem_cons_self) (hexUnbraced m)

/- Characters with an escape of two letters, and its second letter. -/
def shortEscapes : List (Char × Char) :=
  [('\x00', '0'), ('\t', 't'), ('\r', 'r'), ('\n', 'n'), ('\\', '\\'), ('"', '"')]

inductive Escaped (c : Char) : List Char → Prop
  | short {letter : Char} (listed : (c, letter) ∈ shortEscapes) : Escaped c ['\\', letter]
  | number : Escaped c (['\\', 'u', '\x7b'] ++ hex c.toNat ++ ['\x7d'])
  | plain (noEscape : c ≠ '\\') (noQuote : c ≠ '"') : Escaped c [c]

theorem escaped (c : Char) : Escaped c (escapeChar c) := by
  unfold escapeChar
  split_ifs with zero tab carriage newline slash quote unprintable
  case neg => exact .plain slash quote
  case pos => subst zero; exact .short (by decide)
  case pos => subst tab; exact .short (by decide)
  case pos => subst carriage; exact .short (by decide)
  case pos => subst newline; exact .short (by decide)
  case pos => subst slash; exact .short (by decide)
  case pos => subst quote; exact .short (by decide)
  case pos => exact .number

theorem shortInjective {c d letter : Char} (first : (c, letter) ∈ shortEscapes) (second : (d, letter) ∈ shortEscapes) :
    c = d := by
  have distinct : ∀ a ∈ shortEscapes, ∀ b ∈ shortEscapes, a.2 = b.2 → a.1 = b.1 := by decide
  exact distinct _ first _ second rfl

theorem shortUnnumbered {c : Char} : (c, 'u') ∉ shortEscapes := by
  intro listed
  have others : ∀ a ∈ shortEscapes, a.2 ≠ 'u' := by decide
  exact others _ listed rfl

theorem escapedSame {c d : Char} {x y r s : List Char} (first : Escaped c x) (second : Escaped d y)
    (same : x ++ r = y ++ s) : c = d ∧ r = s := by
  cases first with
  | short listed =>
    cases second with
    | short other =>
      injection same with _ same
      injection same with letters rest
      subst letters
      exact ⟨shortInjective listed other, rest⟩
    | number =>
      injection same with _ same
      injection same with letters
      subst letters
      exact absurd listed shortUnnumbered
    | plain noEscape => exact absurd (List.cons.inj same).1.symm noEscape
  | number =>
    cases second with
    | short other =>
      injection same with _ same
      injection same with letters
      subst letters
      exact absurd other shortUnnumbered
    | number =>
      simp only [List.append_assoc, List.cons_append, List.nil_append, List.cons.injEq, true_and] at same
      obtain ⟨numbers, rest⟩ := bracedSame same
      exact ⟨Char.toNat_inj.mp numbers, rest⟩
    | plain noEscape => exact absurd (List.cons.inj same).1.symm noEscape
  | plain noEscape =>
    cases second with
    | short => exact absurd (List.cons.inj same).1 noEscape
    | number => exact absurd (List.cons.inj same).1 noEscape
    | plain => exact List.cons.inj same

theorem escapedUnquoted {c : Char} {x r s : List Char} (code : Escaped c x) : x ++ r ≠ '"' :: s := by
  intro same
  cases code with
  | short => exact absurd (List.cons.inj same).1 (by decide)
  | number => exact absurd (List.cons.inj same).1 (by decide)
  | plain _ noQuote => exact noQuote (List.cons.inj same).1

theorem charsSame {a b r s : List Char} (same : a.flatMap escapeChar ++ '"' :: r = b.flatMap escapeChar ++ '"' :: s) :
    a = b ∧ r = s := by
  induction a generalizing b with
  | nil =>
    cases b with
    | nil => exact ⟨rfl, (List.cons.inj same).2⟩
    | cons d b =>
      rw [List.flatMap_cons, List.append_assoc] at same
      exact absurd same.symm (escapedUnquoted (escaped d))
  | cons c a ih =>
    cases b with
    | nil =>
      rw [List.flatMap_cons, List.append_assoc] at same
      exact absurd same (escapedUnquoted (escaped c))
    | cons d b =>
      rw [List.flatMap_cons, List.flatMap_cons, List.append_assoc, List.append_assoc] at same
      obtain ⟨rfl, tails⟩ := escapedSame (escaped c) (escaped d) same
      obtain ⟨rfl, rest⟩ := ih tails
      exact ⟨rfl, rest⟩

theorem textSame {a b : String} {r s : List Char} (same : (text a).toList ++ r = (text b).toList ++ s) :
    a = b ∧ r = s := by
  simp only [text, String.toList_ofList, List.append_assoc, List.cons_append, List.nil_append, List.cons.injEq,
    true_and] at same
  obtain ⟨texts, rest⟩ := charsSame same
  exact ⟨String.toList_inj.mp texts, rest⟩

end SharedPort.Quoted
