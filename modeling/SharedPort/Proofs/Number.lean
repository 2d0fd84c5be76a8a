import SharedPort.Number
import SharedPort.Proofs.Json.Tokens
import SharedPort.Proofs.Text.Encoding

/-! The texts that are numbers. A whole number is an optional sign and digits, any number of zeros in front; a floating
point number may have a point and a power of ten besides, or is a word for what is infinite or not a number. Reading
takes these texts and no others. -/
namespace SharedPort.Decimal

structure Digits (bound : Nat) (text : List Char) (n : Nat) : Prop where
  nonempty : text ≠ []
  digits : ∀ c ∈ text, c.isDigit = true
  value : Nat.ofDigitChars 10 text 0 = n
  within : n ≤ bound

inductive Numeral (bound : Nat) : List Char → Nat → Prop where
  | plain {text n} (digits : Digits bound text n) : Numeral bound text n
  | plus {text n} (digits : Digits bound text n) : Numeral bound ('+' :: text) n

inductive Signed (bound : Nat) : List Char → Int → Prop where
  | plain {text n} (digits : Digits bound text n) : Signed bound text (n : Nat)
  | plus {text n} (digits : Digits bound text n) : Signed bound ('+' :: text) (n : Nat)
  | minus {text n} (digits : Digits (bound + 1) text n) : Signed bound ('-' :: text) (-(n : Nat))

variable {bound n : Nat} {text : List Char}

theorem digitRead (c : Char) : digit? c = if c.isDigit = true then some (c.toNat - '0'.toNat) else none := by
  have digit : ('0' ≤ c ∧ c ≤ '9') = (c.isDigit = true) := by
    simp only [Char.isDigit, Bool.and_eq_true, decide_eq_true_eq]
    rfl
  simp only [digit?, digit]

/- A part of the digits is never more than the whole, so no step leaves the bound if the end does not. -/
theorem accumulateOk {beyond : Fault} {value : Nat} (inside : value ≤ bound) :
    accumulate bound beyond value text = .ok n ↔
      (∀ c ∈ text, c.isDigit = true) ∧ Nat.ofDigitChars 10 text value = n ∧ n ≤ bound := by
  induction text generalizing value with
  | nil =>
    simp only [accumulate, Except.ok.injEq, List.not_mem_nil, false_implies, implies_true, Nat.ofDigitChars_nil, true_and]
    exact ⟨fun same => ⟨same, same ▸ inside⟩, And.left⟩
  | cons c rest ih =>
    simp only [accumulate, digitRead, List.forall_mem_cons, Nat.ofDigitChars_cons, Nat.mul_comm 10]
    cases digit : c.isDigit with
    | false => simp
    | true =>
      simp only [if_true, true_and]
      split_ifs with fits
      · exact ih fits
      · have part := Json.leOfDigitChars rest (value * 10 + (c.toNat - '0'.toNat))
        refine ⟨nofun, ?_⟩
        rintro ⟨_, rfl, within⟩
        exact absurd (Nat.le_trans part within) fits

theorem digitsOk {beyond : Fault} : digits bound beyond text = .ok n ↔ Digits bound text n := by
  cases text with
  | nil => exact ⟨nofun, fun read => absurd rfl read.nonempty⟩
  | cons c rest =>
    have read : accumulate bound beyond 0 (c :: rest) = .ok n ↔ _ := accumulateOk (Nat.zero_le bound)
    exact ⟨fun ok => ⟨nofun, (read.mp ok).1, (read.mp ok).2.1, (read.mp ok).2.2⟩,
      fun ⟨_, digits, value, within⟩ => read.mpr ⟨digits, value, within⟩⟩

theorem unsignedOk : unsigned bound text = .ok n ↔ Numeral bound text n := by
  constructor
  · intro ok
    unfold unsigned at ok
    split at ok
    · cases ok
    · exact .plus (digitsOk.mp ok)
    · exact .plain (digitsOk.mp ok)
  · intro written
    cases written with
    | plus read => exact digitsOk.mpr read
    | plain read =>
      have ok : digits bound .tooLarge text = .ok n := digitsOk.mpr read
      unfold unsigned
      split
      · exact absurd rfl read.nonempty
      · exact absurd (read.digits '+' List.mem_cons_self) (by decide)
      · exact ok

theorem Numeral.within (written : Numeral bound text n) : n ≤ bound := by
  cases written with
  | plain digits | plus digits => exact digits.within

theorem mapOk {beyond : Fault} {f : Nat → Int} {value : Int} :
    (digits bound beyond text).map f = .ok value ↔ ∃ n, Digits bound text n ∧ f n = value := by
  simp only [← @digitsOk bound _ text beyond]
  cases digits bound beyond text <;> simp [Except.map]

theorem minusRead : signed bound ('-' :: text) = (digits (bound + 1) .tooSmall text).map fun n : Nat => -(n : Int) := by
  rw [signed]
  cases digits (bound + 1) .tooSmall text <;> rfl

theorem signedOk {value : Int} : signed bound text = .ok value ↔ Signed bound text value := by
  constructor
  · intro ok
    unfold signed at ok
    split at ok
    · cases ok
    · rw [← signed, minusRead] at ok
      obtain ⟨n, read, rfl⟩ := mapOk.mp ok
      exact .minus read
    · obtain ⟨n, read, rfl⟩ := mapOk.mp ok
      exact .plus read
    · obtain ⟨n, read, rfl⟩ := mapOk.mp ok
      exact .plain read
  · intro written
    cases written with
    | minus read =>
      rw [minusRead]
      exact mapOk.mpr ⟨_, read, rfl⟩
    | plus read => exact mapOk.mpr ⟨_, read, rfl⟩
    | plain read =>
      unfold signed
      split
      · exact absurd rfl read.nonempty
      · exact absurd (read.digits '-' List.mem_cons_self) (by decide)
      · exact absurd (read.digits '+' List.mem_cons_self) (by decide)
      · exact mapOk.mpr ⟨_, read, rfl⟩

theorem renderDigits (within : n ≤ bound) : Digits bound (render n) n :=
  ⟨Nat.toDigits_ne_nil, fun _ => Nat.isDigit_of_mem_toDigits (by decide) (by decide),
    Nat.ofDigitChars_toDigits (by decide) (by decide), within⟩

end SharedPort.Decimal

namespace SharedPort.Binary64

structure Digits (text : List Char) (n : Nat) : Prop where
  nonempty : text ≠ []
  digits : ∀ c ∈ text, c.isDigit = true
  value : Nat.ofDigitChars 10 text 0 = n

inductive Power : List Char → Int → Prop where
  | none : Power [] 0
  | plain {e text n} (mark : e = 'e' ∨ e = 'E') (digits : Digits text n) : Power (e :: text) (n : Nat)
  | plus {e text n} (mark : e = 'e' ∨ e = 'E') (digits : Digits text n) : Power (e :: '+' :: text) (n : Nat)
  | minus {e text n} (mark : e = 'e' ∨ e = 'E') (digits : Digits text n) : Power (e :: '-' :: text) (-(n : Nat))

inductive Point : List Char → List Char → Prop where
  | none : Point [] []
  | some {fraction} (digits : ∀ c ∈ fraction, c.isDigit = true) : Point ('.' :: fraction) fraction

inductive Unsigned (negative : Bool) : List Char → Binary64 → Prop where
  | infinite {text} (word : text.map Char.toLower = "inf".toList ∨ text.map Char.toLower = "infinity".toList) :
      Unsigned negative text (.infinite negative)
  | nan {text} (word : text.map Char.toLower = "nan".toList) : Unsigned negative text .nan
  | number {whole point fraction power n} (digits : ∀ c ∈ whole, c.isDigit = true) (behind : Point point fraction)
      (some : ¬ (whole = [] ∧ fraction = [])) (scaled : Power power n) :
      Unsigned negative (whole ++ (point ++ power))
        (ofDecimal negative (Nat.ofDigitChars 10 (whole ++ fraction) 0) (n - fraction.length))

inductive Written : List Char → Binary64 → Prop where
  | plain {text x} (unsigned : Unsigned false text x) : Written text x
  | plus {text x} (unsigned : Unsigned false text x) : Written ('+' :: text) x
  | minus {text x} (unsigned : Unsigned true text x) : Written ('-' :: text) x

variable {text body rest whole point fraction power : List Char} {negative : Bool} {x : Binary64} {n : Int}

theorem digitSame (c : Char) : isDigit c = c.isDigit := by
  simp only [isDigit, Char.isDigit]
  rfl

theorem digitsSame (text : List Char) : digitsValue text = Nat.ofDigitChars 10 text 0 := by
  simp only [digitsValue, Nat.ofDigitChars_eq_foldl, Nat.mul_comm]

theorem digitsSpan (digits : ∀ c ∈ body, c.isDigit = true) (other : ∀ c ∈ rest.head?, c.isDigit = false) :
    (body ++ rest).takeWhile isDigit = body ∧ (body ++ rest).dropWhile isDigit = rest := by
  have drop : (body ++ rest).dropWhile isDigit = rest := Blank.dropsFront.mpr
    ⟨body, rfl, fun c member => (digitSame c).trans (digits c member), fun c first => (digitSame c).trans (other c first)⟩
  have both := List.takeWhile_append_dropWhile (p := isDigit) (l := body ++ rest)
  rw [drop] at both
  exact ⟨List.append_cancel_right both, drop⟩

theorem takenDigits (text : List Char) : ∀ c ∈ text.takeWhile isDigit, c.isDigit = true :=
  fun c member => (digitSame c).symm.trans (List.mem_takeWhile_imp member)

theorem digitsRead : (text ≠ [] ∧ text.all isDigit = true) ↔ Digits text (digitsValue text) := by
  constructor
  · rintro ⟨nonempty, digits⟩
    exact ⟨nonempty, fun c member => (digitSame c).symm.trans (List.all_eq_true.mp digits c member),
      (digitsSame text).symm⟩
  · rintro ⟨nonempty, digits, _⟩
    exact ⟨nonempty, List.all_eq_true.mpr fun c member => (digitSame c).trans (digits c member)⟩

theorem Digits.read {n : Nat} (digits : Digits text n) :
    (text ≠ [] ∧ text.all isDigit = true) ∧ digitsValue text = n := by
  have value := (digitsSame text).trans digits.value
  exact ⟨digitsRead.mpr (value ▸ digits), value⟩

theorem powerReads : powerText? text = some n ↔ Power text n := by
  constructor
  · intro read
    cases text with
    | nil =>
      cases read
      exact .none
    | cons e rest =>
      simp only [powerText?] at read
      split at read
      all_goals
        obtain ⟨⟨mark, digits⟩, value⟩ := Option.ite_none_right_eq_some.mp read
        cases value
      · exact .minus mark (digitsRead.mp digits)
      · exact .plus mark (digitsRead.mp digits)
      · exact .plain mark (digitsRead.mp digits)
  · intro power
    cases power with
    | none => rfl
    | minus mark digits | plus mark digits =>
      obtain ⟨read, rfl⟩ := digits.read
      simp only [powerText?]
      rw [if_pos ⟨mark, read⟩]
      rfl
    | plain mark digits =>
      obtain ⟨read, rfl⟩ := digits.read
      simp only [powerText?]
      split
      · exact absurd (digits.digits '-' List.mem_cons_self) (by decide)
      · exact absurd (digits.digits '+' List.mem_cons_self) (by decide)
      · rw [if_pos ⟨mark, read⟩]
        rfl

theorem Power.first (scaled : Power power n) : ∀ c ∈ power.head?, c = 'e' ∨ c = 'E' := by
  cases scaled with
  | none => exact nofun
  | plain mark | plus mark | minus mark => exact fun _ same => Option.some.inj same ▸ mark

theorem numberStarts (power : List Char) (digits : ∀ c ∈ whole, c.isDigit = true) (behind : Point point fraction)
    (some : ¬ (whole = [] ∧ fraction = [])) :
    ∃ c rest, whole ++ (point ++ power) = c :: rest ∧ (c.isDigit = true ∨ c = '.') := by
  cases whole with
  | cons c whole => exact ⟨c, _, rfl, .inl (digits c List.mem_cons_self)⟩
  | nil =>
    cases behind with
    | none => exact absurd ⟨rfl, rfl⟩ some
    | some => exact ⟨'.', _, rfl, .inr rfl⟩

theorem digitSmall {c : Char} (start : c.isDigit = true ∨ c = '.') : c.toLower = c := by
  rcases start with digit | rfl
  · have small : ¬ (c.val ≥ 65 ∧ c.val ≤ 90) := by
      simp only [Char.isDigit, Bool.and_eq_true, decide_eq_true_eq, UInt32.le_iff_toNat_le, ge_iff_le] at digit ⊢
      have upper : c.val.toNat ≤ 57 := digit.2
      exact fun inside => absurd (Nat.le_trans inside.1 upper) (by decide)
    exact dif_neg small
  · decide

theorem noWord {word : List Char} {w : Char} (first : word.head? = some w) (letter : ¬ (w.isDigit = true ∨ w = '.'))
    (power : List Char) (digits : ∀ c ∈ whole, c.isDigit = true) (behind : Point point fraction)
    (some : ¬ (whole = [] ∧ fraction = [])) : (whole ++ (point ++ power)).map Char.toLower ≠ word := by
  obtain ⟨c, rest, shape, start⟩ := numberStarts power digits behind some
  rintro rfl
  rw [shape, List.map_cons, List.head?_cons, digitSmall start] at first
  cases first
  exact letter start

def fractionOf : List Char → List Char × List Char
  | '.' :: rest => (rest.takeWhile isDigit, rest.dropWhile isDigit)
  | rest => ([], rest)

theorem fractionIs (rest : List Char) :
    ∃ point, Point point (fractionOf rest).1 ∧ rest = point ++ (fractionOf rest).2 := by
  unfold fractionOf
  split
  · rename_i rest
    exact ⟨'.' :: rest.takeWhile isDigit, .some (takenDigits rest),
      congrArg ('.' :: ·) List.takeWhile_append_dropWhile.symm⟩
  · exact ⟨[], .none, rfl⟩

theorem fractionTakes (behind : Point point fraction) (scaled : Power power n) :
    fractionOf (point ++ power) = (fraction, power) := by
  cases behind with
  | some digits =>
    have other : ∀ c ∈ power.head?, c.isDigit = false := fun c first => by
      rcases scaled.first c first with rfl | rfl <;> decide
    obtain ⟨taken, left⟩ := digitsSpan digits other
    simp only [List.cons_append, fractionOf, taken, left]
  | none =>
    unfold fractionOf
    split
    · rename_i dot
      have first := scaled.first '.' (congrArg List.head? dot)
      exact absurd first (by decide)
    · rfl

theorem unsignedRead : unsignedText? negative text =
    if text.map Char.toLower = "inf".toList ∨ text.map Char.toLower = "infinity".toList then some (.infinite negative)
    else if text.map Char.toLower = "nan".toList then some .nan
    else
      let whole := text.takeWhile isDigit
      let (fraction, power) := fractionOf (text.dropWhile isDigit)
      if whole = [] ∧ fraction = [] then none
      else (powerText? power).map fun n =>
        ofDecimal negative (digitsValue (whole ++ fraction)) (n - fraction.length) := rfl

theorem unsignedReads : unsignedText? negative text = some x ↔ Unsigned negative text x := by
  rw [unsignedRead]
  constructor
  · intro read
    split at read
    · cases read
      exact .infinite ‹_›
    split at read
    · cases read
      exact .nan ‹_›
    obtain ⟨point, behind, shape⟩ := fractionIs (text.dropWhile isDigit)
    generalize fractionOf (text.dropWhile isDigit) = left at *
    dsimp only at read
    split at read
    · cases read
    obtain ⟨n, power, rfl⟩ := Option.map_eq_some_iff.mp read
    have whole : text = text.takeWhile isDigit ++ (point ++ left.2) := by
      rw [← shape, List.takeWhile_append_dropWhile]
    have written : Unsigned negative _ _ := .number (takenDigits text) behind ‹_› (powerReads.mp power)
    rwa [← whole, ← digitsSame] at written
  · intro written
    cases written with
    | infinite word => rw [if_pos word]
    | nan word =>
      have other : ¬ (text.map Char.toLower = "inf".toList ∨ text.map Char.toLower = "infinity".toList) := by
        rw [word]
        decide +kernel
      rw [if_neg other, if_pos word]
    | @number whole point fraction power n digits behind some scaled =>
      have noInfinite : ¬ ((whole ++ (point ++ power)).map Char.toLower = "inf".toList ∨
          (whole ++ (point ++ power)).map Char.toLower = "infinity".toList) :=
        not_or.mpr ⟨noWord (w := 'i') (by decide +kernel) (by decide) power digits behind some,
          noWord (w := 'i') (by decide +kernel) (by decide) power digits behind some⟩
      have noNan : (whole ++ (point ++ power)).map Char.toLower ≠ "nan".toList :=
        noWord (w := 'n') (by decide +kernel) (by decide) power digits behind some
      have other : ∀ c ∈ (point ++ power).head?, c.isDigit = false := by
        cases behind with
        | none => exact fun c first => by rcases scaled.first c first with rfl | rfl <;> decide
        | some => exact fun c first => Option.some.inj first ▸ rfl
      obtain ⟨taken, left⟩ := digitsSpan digits other
      rw [if_neg noInfinite, if_neg noNan, taken, left, fractionTakes behind scaled]
      dsimp only
      rw [if_neg some, powerReads.mpr scaled, digitsSame]
      rfl

theorem Unsigned.first (unsigned : Unsigned negative text x) : ∀ c ∈ text.head?, c ≠ '+' ∧ c ≠ '-' := by
  have letters : ∀ {word w}, word.head? = some w → w ≠ '+' ∧ w ≠ '-' → text.map Char.toLower = word →
      ∀ c ∈ text.head?, c ≠ '+' ∧ c ≠ '-' := by
    rintro word w start letter rfl c first
    rw [List.head?_map, Option.mem_def.mp first] at start
    cases start
    constructor
    · rintro rfl
      exact letter.1 rfl
    · rintro rfl
      exact letter.2 rfl
  cases unsigned with
  | infinite word =>
    rcases word with word | word
    · exact letters (w := 'i') (by decide +kernel) (by decide) word
    · exact letters (w := 'i') (by decide +kernel) (by decide) word
  | nan word => exact letters (w := 'n') (by decide +kernel) (by decide) word
  | @number whole point fraction power n digits behind some =>
    obtain ⟨c, rest, shape, start⟩ := numberStarts power digits behind some
    rw [shape]
    intro d first
    cases first
    rcases start with digit | rfl
    · constructor
      · rintro rfl
        exact absurd digit (by decide)
      · rintro rfl
        exact absurd digit (by decide)
    · decide

theorem readsWritten {text : String} : ofText? text = some x ↔ Written text.toList x := by
  unfold ofText?
  constructor
  · intro read
    split at read
    · exact ‹text.toList = _› ▸ .minus (unsignedReads.mp read)
    · exact ‹text.toList = _› ▸ .plus (unsignedReads.mp read)
    · exact .plain (unsignedReads.mp read)
  · intro written
    generalize text.toList = chars at written
    cases written with
    | plus unsigned | minus unsigned => exact unsignedReads.mpr unsigned
    | plain unsigned =>
      split
      · exact absurd rfl (unsigned.first '-' rfl).2
      · exact absurd rfl (unsigned.first '+' rfl).1
      · exact unsignedReads.mpr unsigned

/- Every whole number is a floating point number too, if not the same one. -/
theorem wholeWritten {bound : Nat} (signed : Decimal.Signed bound text n) : ∃ x, Written text x := by
  have unsigned : ∀ {bound n text} (negative : Bool), Decimal.Digits bound text n → ∃ x, Unsigned negative text x := by
    intro bound n text negative digits
    have number : Unsigned negative (text ++ ([] ++ [])) _ :=
      .number digits.digits .none (fun nothing => digits.nonempty nothing.1) .none
    rw [List.append_nil, List.append_nil] at number
    exact ⟨_, number⟩
  cases signed with
  | plain digits => exact (unsigned false digits).imp fun _ => .plain
  | plus digits => exact (unsigned false digits).imp fun _ => .plus
  | minus digits => exact (unsigned true digits).imp fun _ => .minus

end SharedPort.Binary64
