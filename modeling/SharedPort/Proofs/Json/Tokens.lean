import Mathlib.Data.List.Forall2
import SharedPort.Json.Typed
import SharedPort.Json.Value

/-! Strings and whole numbers are read back as they were written, with escapes in a string and blanks in front. A string
ends with its own quote. A number ends where something follows that cannot go on with it. -/
namespace SharedPort.Json

theorem skipBlankCons {c : Char} (rest : List Char) (solid : isBlank c = false) :
    skipBlank (c :: rest) = c :: rest := by simp [skipBlank, solid]

def unit? : List Char → Option Nat
  | [a, b, c, d] => do
      return (((← hexDigit? a) * 16 + (← hexDigit? b)) * 16 + (← hexDigit? c)) * 16 + (← hexDigit? d)
  | _ => none

/- How a character may stand in a string: as itself, by a letter behind a backslash, or as one code unit or two. -/
inductive SpelledChar : Char → List Char → Prop where
  | plain {c} (quote : c ≠ '"') (slash : c ≠ '\\') (control : ¬ c < ' ') : SpelledChar c [c]
  | short {c letter} (escape : shortEscape? letter = some c) : SpelledChar c ['\\', letter]
  | unit {c digits} (value : unit? digits = some c.toNat) : SpelledChar c ('\\' :: 'u' :: digits)
  | pair {c first second} (beyond : 0x10000 ≤ c.toNat)
      (high : unit? first = some (0xD800 + (c.toNat - 0x10000) / 0x400))
      (low : unit? second = some (0xDC00 + (c.toNat - 0x10000) % 0x400)) :
      SpelledChar c ('\\' :: 'u' :: (first ++ '\\' :: 'u' :: second))

def SpelledText (s : String) (written : List Char) : Prop :=
  ∃ parts, List.Forall₂ SpelledChar s.toList parts ∧ written = '"' :: parts.flatten ++ ['"']

theorem hexDigitRead : ∀ d < 16, hexDigit? (Printer.hexDigit d) = some d := by decide

theorem controlUnit {c : Char} (control : c < ' ') :
    unit? ['0', '0', Printer.hexDigit (c.toNat / 16), Printer.hexDigit (c.toNat % 16)] = some c.toNat := by
  have small : c.toNat < 32 := control
  have high := hexDigitRead (c.toNat / 16) (by omega)
  have low := hexDigitRead (c.toNat % 16) (by omega)
  have zero : hexDigit? '0' = some 0 := by decide
  have value : c.toNat / 16 * 16 + c.toNat % 16 = c.toNat := by omega
  simp [unit?, zero, high, low, value]

theorem escapeSpelled (c : Char) : SpelledChar c (Printer.escape c) := by
  unfold Printer.escape
  split_ifs with quote slash back feed line carriage tab control
  · subst c; exact .short rfl
  · subst c; exact .short rfl
  · subst c; exact .short rfl
  · subst c; exact .short rfl
  · subst c; exact .short rfl
  · subst c; exact .short rfl
  · subst c; exact .short rfl
  · exact .unit (controlUnit control)
  · exact .plain quote slash control

theorem printedSpelled (s : String) : SpelledText s (Printer.string s) := by
  refine ⟨s.toList.map Printer.escape, ?_, by rw [Printer.string, List.flatMap_def]⟩
  exact List.forall₂_map_right_iff.mpr (List.forall₂_same.mpr fun c _ => escapeSpelled c)

theorem shortRead {letter c : Char} (short : shortEscape? letter = some c) (done rest : List Char) :
    stringFrom .plain done ('\\' :: letter :: rest) = stringFrom .plain (c :: done) rest := by
  have other : letter ≠ 'u' := by
    rintro rfl
    simp [shortEscape?] at short
  simp [stringFrom, other, short]

theorem unitRead {digits : List Char} {value : Nat} (unit : unit? digits = some value) (first : Option Nat)
    (done rest : List Char) : stringFrom (.unit 4 0 first) done (digits ++ rest) =
      match unitMeaning value first with
      | .character c => stringFrom .plain (c :: done) rest
      | .high h => stringFrom (.lowMark h) done rest
      | .stray => .error .malformed := by
  unfold unit? at unit
  split at unit
  · simp only [bind, Option.bind_eq_some_iff, pure, Option.some.injEq] at unit
    obtain ⟨a, isA, b, isB, c, isC, d, isD, rfl⟩ := unit
    cases meaning : unitMeaning (((a * 16 + b) * 16 + c) * 16 + d) first <;>
      simp [stringFrom, isA, isB, isC, isD, meaning]
  · cases unit

theorem unitMeaningChar (c : Char) : unitMeaning c.toNat none = .character c := by
  have scalar : c.toNat < 0xD800 ∨ 0xDFFF < c.toNat ∧ c.toNat < 0x110000 := c.valid
  have apart : isLow c.toNat = false ∧ isHigh c.toNat = false := by
    simp only [isLow, isHigh, Bool.and_eq_false_iff, decide_eq_false_iff_not]
    omega
  simp [unitMeaning, apart]

theorem pairRead {c : Char} {first second : List Char} (beyond : 0x10000 ≤ c.toNat)
    (high : unit? first = some (0xD800 + (c.toNat - 0x10000) / 0x400))
    (low : unit? second = some (0xDC00 + (c.toNat - 0x10000) % 0x400)) (done rest : List Char) :
    stringFrom .plain done ('\\' :: 'u' :: (first ++ '\\' :: 'u' :: second) ++ rest) =
      stringFrom .plain (c :: done) rest := by
  have scalar : c.toNat < 0xD800 ∨ 0xDFFF < c.toNat ∧ c.toNat < 0x110000 := c.valid
  obtain ⟨v, value⟩ : ∃ v, c.toNat = 0x10000 + v := ⟨c.toNat - 0x10000, by omega⟩
  have opens : unitMeaning (0xD800 + v / 0x400) none = .high (0xD800 + v / 0x400) := by
    have isHighUnit : isLow (0xD800 + v / 0x400) = false ∧ isHigh (0xD800 + v / 0x400) = true := by
      simp only [isLow, isHigh, Bool.and_eq_false_iff, Bool.and_eq_true, decide_eq_false_iff_not, decide_eq_true_eq]
      omega
    simp [unitMeaning, isHighUnit]
  have closes : unitMeaning (0xDC00 + v % 0x400) (some (0xD800 + v / 0x400)) = .character c := by
    have isLowUnit : isLow (0xDC00 + v % 0x400) = true := by
      simp only [isLow, Bool.and_eq_true, decide_eq_true_eq]
      omega
    have together : 0x10000 + (0xD800 + v / 0x400 - 0xD800) * 0x400 + (0xDC00 + v % 0x400 - 0xDC00) = c.toNat := by omega
    simp only [unitMeaning, isLowUnit, if_true, together, Char.ofNat_toNat]
  rw [value, Nat.add_sub_cancel_left] at high low
  have whole : '\\' :: 'u' :: (first ++ '\\' :: 'u' :: second) ++ rest =
      '\\' :: 'u' :: (first ++ ('\\' :: 'u' :: (second ++ rest))) := by simp
  rw [whole]
  simp [stringFrom, unitRead high, opens, unitRead low, closes]

theorem charRead {c : Char} {written : List Char} (spelled : SpelledChar c written) (done rest : List Char) :
    stringFrom .plain done (written ++ rest) = stringFrom .plain (c :: done) rest := by
  cases spelled with
  | plain quote slash control => simp [stringFrom, quote, slash, control]
  | short escape => exact shortRead escape done rest
  | unit value =>
    rw [List.cons_append, List.cons_append]
    simp [stringFrom, unitRead value, unitMeaningChar]
  | pair beyond high low => exact pairRead beyond high low done rest

theorem charsRead {s : List Char} {parts : List (List Char)} (spelled : List.Forall₂ SpelledChar s parts)
    (done rest : List Char) :
    stringFrom .plain done (parts.flatten ++ '"' :: rest) = .ok (String.ofList (done.reverse ++ s), rest) := by
  induction spelled generalizing done with
  | nil => simp [stringFrom]
  | cons first others ih =>
    rw [List.flatten_cons, List.append_assoc, charRead first, ih]
    simp

theorem spelledRead {s : String} {written : List Char} (spelled : SpelledText s written) (rest : List Char) :
    string (written ++ rest) = .ok (s, rest) := by
  obtain ⟨parts, chars, rfl⟩ := spelled
  simp [string, charsRead chars]

theorem isDigitRender {n : Nat} {c : Char} (member : c ∈ Decimal.render n) : isDigit c = true := by
  have digit := Nat.isDigit_of_mem_toDigits (by decide) (by decide) member
  simp only [isDigit, Char.isDigit, Bool.and_eq_true, decide_eq_true_eq] at digit ⊢
  exact digit

theorem renderNonempty (n : Nat) : Decimal.render n ≠ [] := Nat.toDigits_ne_nil

theorem leadingDigit {n : Nat} (positive : 0 < n) : (Decimal.render n).head? ≠ some '0' := by
  induction n using Nat.strongRecOn with
  | ind n ih =>
    unfold Decimal.render
    rw [Nat.toDigits_eq_if (by decide)]
    split_ifs with small
    · simp only [List.head?_cons, ne_eq, Option.some.injEq, Nat.digitChar_eq_zero]
      omega
    · have before := ih (n / 10) (by omega) (by omega)
      have first : (Nat.toDigits 10 (n / 10) ++ [Nat.digitChar (n % 10)]).head? = (Nat.toDigits 10 (n / 10)).head? :=
        List.head?_append_of_ne_nil _ (renderNonempty (n / 10))
      rw [first]
      exact before

theorem noLeadingZero (n : Nat) :
    ¬ (Decimal.render n = [] ∨ (Decimal.render n).head? = some '0' ∧ 1 < (Decimal.render n).length) := by
  rintro (empty | ⟨zero, long⟩)
  · exact renderNonempty n empty
  · rcases Nat.eq_zero_or_pos n with rfl | positive
    · revert long
      decide
    · exact leadingDigit positive zero

def Ends (rest : List Char) : Prop := ∀ c ∈ rest.head?, isDigit c = false ∧ c ≠ '.' ∧ c ≠ 'e' ∧ c ≠ 'E'

theorem endsCons {c : Char} {rest : List Char} (stops : isDigit c = false ∧ c ≠ '.' ∧ c ≠ 'e' ∧ c ≠ 'E') :
    Ends (c :: rest) := by
  rintro d ⟨⟩
  exact stops

theorem takeDigits {n : Nat} {rest : List Char} (ends : Ends rest) :
    (Decimal.render n ++ rest).takeWhile isDigit = Decimal.render n ∧
      (Decimal.render n ++ rest).dropWhile isDigit = rest := by
  have digits : ∀ c ∈ Decimal.render n, isDigit c = true := fun c => isDigitRender
  rw [List.takeWhile_append_of_pos digits, List.dropWhile_append_of_pos digits]
  cases rest with
  | nil => simp
  | cons c rest => simp [(ends c rfl).1]

theorem numberTextRead (n : Nat) {rest : List Char} (ends : Ends rest) :
    numberText (Decimal.render n ++ rest) = .ok (⟨false, Decimal.render n, [], none⟩, rest) := by
  obtain ⟨whole, left⟩ := takeDigits (n := n) ends
  have unsigned : ∀ tail, Decimal.render n ++ rest ≠ '-' :: tail := by
    intro tail signed
    rw [signed] at whole
    have empty : Decimal.render n = [] := by rw [← whole]; simp [isDigit]
    exact renderNonempty n empty
  have fraction : fractionText rest = .ok ([], rest) := by
    unfold fractionText
    split
    · exact absurd rfl (ends '.' rfl).2.1
    · rfl
  have power : powerText rest = .ok (none, rest) := by
    cases rest with
    | nil => rfl
    | cons c rest =>
      obtain ⟨_, _, small, capital⟩ := ends c rfl
      simp [powerText, small, capital]
  unfold numberText
  split
  rename_i sign
  split at sign
  · rename_i signed
    exact (unsigned _ signed).elim
  · cases sign
    simp [whole, left, noLeadingZero n, fraction, power, bind, Except.bind, pure, Except.pure]

theorem leOfDigitChars (digits : List Char) (value : Nat) : value ≤ Nat.ofDigitChars 10 digits value := by
  induction digits generalizing value with
  | nil => simp
  | cons c digits ih =>
    have later := ih (10 * value + (c.toNat - '0'.toNat))
    rw [Nat.ofDigitChars_cons]
    omega

/- If the whole number fits, so does every part of it that is gathered on the way. -/
theorem gatherFits {digits : List Char} {value : Nat} (fits : Nat.ofDigitChars 10 digits value ≤ significandBound) :
    gather value digits = ⟨Nat.ofDigitChars 10 digits value, []⟩ := by
  induction digits generalizing value with
  | nil => simp [gather]
  | cons c digits ih =>
    have part := leOfDigitChars digits (10 * value + (c.toNat - '0'.toNat))
    rw [Nat.ofDigitChars_cons] at fits ⊢
    have inside : value * 10 + (c.toNat - '0'.toNat) ≤ significandBound := by omega
    simp only [gather, inside, if_true]
    rw [Nat.mul_comm value 10]
    exact ih fits

theorem numberRead {n : Nat} (fits : n ≤ significandBound) {rest : List Char} (ends : Ends rest) :
    number (Decimal.render n ++ rest) = .ok (.whole n, rest) := by
  have value : Nat.ofDigitChars 10 (Decimal.render n) 0 = n := Nat.ofDigitChars_toDigits (by decide) (by decide)
  have gathered : gather 0 (Decimal.render n) = ⟨n, []⟩ := by rw [gatherFits (by rwa [value]), value]
  simp [number, numberTextRead n ends, NumberText.value?, gathered, bind, Except.bind, pure, Except.pure]

theorem digitSolid {c : Char} (digit : isDigit c = true) : isBlank c = false := by
  by_contra blank
  simp only [isBlank, Bool.not_eq_false, Bool.or_eq_true, beq_iff_eq] at blank
  rcases blank with ((rfl | rfl) | rfl) | rfl <;> simp [isDigit] at digit

def Blank (text : List Char) : Prop := ∀ c ∈ text, isBlank c = true

instance (text : List Char) : Decidable (Blank text) := decidable_of_iff (text.all isBlank = true) List.all_eq_true

theorem skipBlankAppend {blank : List Char} (blanks : Blank blank) (text : List Char) :
    skipBlank (blank ++ text) = skipBlank text := List.dropWhile_append_of_pos blanks

theorem skipBlankAll {blank : List Char} (blanks : Blank blank) : skipBlank blank = [] := by
  have skipped := skipBlankAppend blanks []
  rwa [List.append_nil] at skipped

theorem endsNil : Ends [] := by
  rintro c ⟨⟩

theorem endsBlank {blank rest : List Char} (blanks : Blank blank) (ends : Ends rest) : Ends (blank ++ rest) := by
  cases blank with
  | nil => exact ends
  | cons c blank =>
    have space : isBlank c = true := blanks c (by simp)
    simp only [isBlank, Bool.or_eq_true, beq_iff_eq] at space
    refine endsCons ?_
    rcases space with ((rfl | rfl) | rfl) | rfl <;> decide

theorem blankEnds {blank : List Char} (blanks : Blank blank) : Ends blank := by
  have ends := endsBlank blanks endsNil
  rwa [List.append_nil] at ends

/- A value in the middle of a document: blanks may come before it, and what follows cannot belong to a number. -/
def Takes {α : Type} (reader : Reader α) (written : List Char) (value : α) : Prop :=
  ∀ blank rest, Blank blank → Ends rest → reader (blank ++ (written ++ rest)) = .ok (value, rest)

theorem Takes.map {α β : Type} {reader : Reader α} {written : List Char} {value : α} (takes : Takes reader written value)
    (f : α → β) : Takes (fun input => do
      let (value, input) ← reader input
      return (f value, input)) written (f value) := by
  intro blank rest blanks ends
  simp [takes blank rest blanks ends, bind, Except.bind, pure, Except.pure]

theorem spelledQuoted {s : String} {written : List Char} (spelled : SpelledText s written) :
    ∃ tail, written = '"' :: tail := by
  obtain ⟨parts, _, rfl⟩ := spelled
  exact ⟨_, rfl⟩

theorem textTakes {s : String} {written : List Char} (spelled : SpelledText s written) : Takes text written s := by
  intro blank rest blanks _
  have read := spelledRead spelled rest
  obtain ⟨tail, rfl⟩ := spelledQuoted spelled
  rw [List.cons_append] at read ⊢
  simp [text, skipBlankAppend blanks, skipBlankCons _ (by decide : isBlank '"' = false), read]

theorem optionalTextTakes {s : String} {written : List Char} (spelled : SpelledText s written) :
    Takes optionalText written (some s) := by
  intro blank rest blanks ends
  have read := textTakes spelled [] rest (by simp [Blank]) ends
  obtain ⟨tail, rfl⟩ := spelledQuoted spelled
  simp only [List.nil_append, List.cons_append] at read ⊢
  simp [optionalText, skipBlankAppend blanks, skipBlankCons _ (by decide : isBlank '"' = false), read, bind, Except.bind,
    pure, Except.pure]

theorem nullTakes : Takes optionalText "null".toList none := by
  intro blank rest blanks _
  have written : "null".toList ++ rest = 'n' :: 'u' :: 'l' :: 'l' :: rest := rfl
  rw [written, optionalText, skipBlankAppend blanks, skipBlankCons _ (by decide)]
  rfl

theorem digitsOpen (n : Nat) : ∃ c tail, Decimal.render n = c :: tail ∧ isDigit c = true := by
  obtain ⟨c, tail, shape⟩ := List.exists_cons_of_ne_nil (renderNonempty n)
  exact ⟨c, tail, shape, isDigitRender (n := n) (by simp [shape])⟩

theorem unsignedTakes {n bound : Nat} (expected : Expected) (fits : n ≤ bound) (small : bound ≤ significandBound) :
    Takes (unsigned bound expected) (Decimal.render n) n := by
  intro blank rest blanks ends
  have read := numberRead (Nat.le_trans fits small) ends
  obtain ⟨c, tail, shape, digit⟩ := digitsOpen n
  rw [shape, List.cons_append] at read ⊢
  simp [unsigned, skipBlankAppend blanks, skipBlankCons _ (digitSolid digit), digit, read, fits, bind, Except.bind, pure,
    Except.pure]

end SharedPort.Json
