import Mathlib.Data.List.Nodup
import SharedPort.Json.Value
import SharedPort.Proofs.Json.Spelling

/-! Values as anyone may write them: null, texts, whole numbers in digits, and arrays and objects of these. The reader
of whole documents gives each of them back. -/
namespace SharedPort.Json

inductive SpelledScalar : Value → List Char → Prop where
  | null : SpelledScalar .null "null".toList
  | whole {n} (fits : n ≤ significandBound) : SpelledScalar (.number (.whole n)) (Decimal.render n)
  | text {s written} (spelled : SpelledText s written) : SpelledScalar (.text s) written

/- A value, if `inner` says how those inside it are written. Each key of an object stands there once. -/
inductive Layer (inner : Value → List Char → Prop) : Value → List Char → Prop where
  | scalar {v written} (spelled : SpelledScalar v written) : Layer inner v written
  | array {items text} (listed : Listed inner ']' true items text) : Layer inner (.array items) ('[' :: text)
  | object {members text} (once : (members.map Prod.fst).Nodup)
      (listed : Listed (SpelledMember Prod.fst fun m => inner m.2) '\x7d' true members text) :
      Layer inner (.object members) ('\x7b' :: text)

def Spelled : Nat → Value → List Char → Prop
  | 0 => SpelledScalar
  | depth + 1 => Layer (Spelled depth)

def Alone (content : String) (written : List Char) : Prop :=
  ∃ before after, Blank before ∧ Blank after ∧ content.toList = before ++ (written ++ after)

variable {depth fuel : Nat} {v : Value} {written : List Char}

theorem spelledScalar (spelled : Spelled depth v written) :
    SpelledScalar v written ∨ (∃ items, v = .array items) ∨ ∃ members, v = .object members := by
  cases depth with
  | zero => exact .inl spelled
  | succ depth =>
    cases spelled with
    | scalar spelled => exact .inl spelled
    | array _ => exact .inr (.inl ⟨_, rfl⟩)
    | object _ _ => exact .inr (.inr ⟨_, rfl⟩)

theorem spelledNull (spelled : Spelled depth .null written) : written = "null".toList := by
  rcases spelledScalar spelled with flat | ⟨_, ⟨⟩⟩ | ⟨_, ⟨⟩⟩
  cases flat
  rfl

theorem spelledWhole {n : Nat} (spelled : Spelled depth (.number (.whole n)) written) :
    written = Decimal.render n := by
  rcases spelledScalar spelled with flat | ⟨_, ⟨⟩⟩ | ⟨_, ⟨⟩⟩
  generalize same : Value.number (.whole n) = v at flat
  cases flat with
  | null => cases same
  | whole fits =>
    have digits := Int.ofNat.inj (Number.whole.inj (Value.number.inj same))
    rw [digits]
  | text spelled => cases same

theorem spelledText {s : String} (spelled : Spelled depth (.text s) written) : SpelledText s written := by
  rcases spelledScalar spelled with flat | ⟨_, ⟨⟩⟩ | ⟨_, ⟨⟩⟩
  cases flat with
  | text spelled => exact spelled

theorem spelledArray {items : List Value} (spelled : Spelled depth (.array items) written) :
    ∃ inside text, written = '[' :: text ∧ Listed (Spelled inside) ']' true items text := by
  cases depth with
  | zero => cases spelled
  | succ depth =>
    cases spelled with
    | scalar spelled => cases spelled
    | array listed => exact ⟨depth, _, rfl, listed⟩

theorem spelledObject {members : List (String × Value)} (spelled : Spelled depth (.object members) written) :
    ∃ inside text, written = '\x7b' :: text ∧ (members.map Prod.fst).Nodup ∧
      Listed (SpelledMember Prod.fst fun m => Spelled inside m.2) '\x7d' true members text := by
  cases depth with
  | zero => cases spelled
  | succ depth =>
    cases spelled with
    | scalar spelled => cases spelled
    | object once listed => exact ⟨depth, _, rfl, once, listed⟩

theorem scalarAnywhere (spelled : SpelledScalar v written) : Spelled depth v written := by
  cases depth with
  | zero => exact spelled
  | succ depth => exact .scalar spelled

theorem scalarFirst (spelled : SpelledScalar v written) :
    ∃ c tail, written = c :: tail ∧ (c = '"' ∨ c = 'n' ∨ isDigit c = true) := by
  cases spelled with
  | null => exact ⟨'n', _, rfl, .inr (.inl rfl)⟩
  | @whole n fits =>
    obtain ⟨c, tail, shape, digit⟩ := digitsOpen n
    exact ⟨c, tail, shape, .inr (.inr digit)⟩
  | text spelled =>
    obtain ⟨tail, shape⟩ := spelledQuoted spelled
    exact ⟨'"', tail, shape, .inl rfl⟩

theorem scalarOpens (spelled : SpelledScalar v written) :
    ∃ c tail, written = c :: tail ∧ isBlank c = false ∧ c ≠ ']' ∧ c ≠ '[' ∧ c ≠ '\x7b' := by
  obtain ⟨c, tail, shape, first⟩ := scalarFirst spelled
  refine ⟨c, tail, shape, ?_⟩
  rcases first with rfl | rfl | digit
  · decide
  · decide
  · refine ⟨digitSolid digit, ?_, ?_, ?_⟩ <;> rintro rfl <;> simp [isDigit] at digit

theorem spelledOpens (spelled : Spelled depth v written) : Opens ']' written := by
  rcases spelledScalar spelled with flat | ⟨items, rfl⟩ | ⟨members, rfl⟩
  · obtain ⟨c, tail, shape, solid, other, _⟩ := scalarOpens flat
    exact ⟨c, tail, shape, solid, other⟩
  · obtain ⟨_, text, shape, _⟩ := spelledArray spelled
    exact ⟨'[', text, shape, by decide, by decide⟩
  · obtain ⟨_, text, shape, _⟩ := spelledObject spelled
    exact ⟨'\x7b', text, shape, by decide, by decide⟩

theorem scalarRead (spelled : SpelledScalar v written) {rest : List Char} (ends : Ends rest) :
    scalar (written ++ rest) = .ok (v, rest) := by
  cases spelled with
  | null => rfl
  | @whole n fits =>
    have read := numberRead fits ends
    obtain ⟨c, tail, shape, digit⟩ := digitsOpen n
    have others : c ≠ '"' ∧ c ≠ 'n' ∧ c ≠ 't' ∧ c ≠ 'f' := by
      refine ⟨?_, ?_, ?_, ?_⟩ <;> rintro rfl <;> simp [isDigit] at digit
    rw [shape, List.cons_append] at read ⊢
    simp [scalar, others, digit, read, Except.map]
  | text spelled =>
    have read := spelledRead spelled rest
    obtain ⟨tail, rfl⟩ := spelledQuoted spelled
    rw [List.cons_append] at read ⊢
    simp only [string] at read
    simp [scalar, read, Except.map]

theorem putFresh {α : Type} {key : String} {value : α} {found : List (String × α)} (fresh : key ∉ found.map Prod.fst) :
    put key value found = found ++ [(key, value)] := by
  induction found with
  | nil => rfl
  | cons m found ih =>
    obtain ⟨k, old⟩ := m
    simp only [List.map_cons, List.mem_cons, not_or] at fresh
    simp [put, Ne.symm fresh.1, ih fresh.2]

def keepItem (fuel depth : Nat) (done : List Value) : Reader (List Value) := fun text => do
  let (item, text) ← value fuel depth text
  return (item :: done, text)

def keepMember (fuel depth : Nat) (found : List (String × Value)) (key : String) : Reader (List (String × Value)) :=
  fun text => do
    let (_, text) ← colon text
    let (item, text) ← value fuel depth text
    return (put key item found, text)

theorem itemsChain {spells : Value → List Char → Prop}
    (takes : ∀ {x written}, spells x written → Takes (value fuel depth) written x) (items done : List Value) :
    Chain (ItemTaken (keepItem fuel depth) spells) done items (items.reverse ++ done) := by
  induction items generalizing done with
  | nil => exact .none
  | cons x items ih =>
    rw [List.reverse_cons, List.append_assoc]
    exact .next (fun _ spelled => (takes spelled).map (· :: done)) (ih (x :: done))

theorem membersChain {spells : Value → List Char → Prop}
    (takes : ∀ {x written}, spells x written → Takes (value fuel depth) written x) {members : List (String × Value)}
    (found : List (String × Value)) (once : ((found ++ members).map Prod.fst).Nodup) :
    Chain (MemberTaken (keepMember fuel depth) Prod.fst fun m => spells m.2) found members (found ++ members) := by
  induction members generalizing found with
  | nil => rw [List.append_nil]; exact .none
  | cons m members ih =>
    have fresh : m.1 ∉ found.map Prod.fst := by
      rw [List.map_append, List.map_cons] at once
      exact fun there => (List.nodup_append.mp once).2.2 _ there _ (List.mem_cons_self ..) rfl
    rw [List.append_cons] at once ⊢
    refine .next (fun before written blanks spelled gap rest blanks' ends => ?_) (ih _ once)
    have read := takes spelled before rest blanks ends
    simp [keepMember, colonTaken blanks', read, putFresh fresh, bind, Except.bind, pure, Except.pure]

theorem valueBlank {blank : List Char} (blanks : Blank blank) (text : List Char) :
    value fuel depth (blank ++ text) = value fuel depth text := by
  cases depth <;> simp only [value, skipBlankAppend blanks]

theorem valueScalar (spelled : SpelledScalar v written) : Takes (value fuel depth) written v := by
  intro blank rest blanks ends
  have read := scalarRead spelled ends
  obtain ⟨c, tail, rfl, solid, _, square, curly⟩ := scalarOpens spelled
  rw [valueBlank blanks]
  cases depth with
  | zero => simpa [value, skipBlankCons _ solid] using read
  | succ depth => simpa [value, skipBlankCons _ solid, square, curly] using read

theorem valueArray {spells : Value → List Char → Prop} {items : List Value} {text : List Char}
    (listed : Listed spells ']' true items text) (opens : ∀ x written, spells x written → Opens ']' written)
    (takes : ∀ {x written}, spells x written → Takes (value fuel depth) written x) (enough : items.length < fuel) :
    Takes (value fuel (depth + 1)) ('[' :: text) (.array items) := by
  intro blank rest blanks _
  have read := elementsTake listed opens (itemsChain takes items []) enough rest
  have opened : value fuel (depth + 1) ('[' :: (text ++ rest)) =
      (elements (keepItem fuel depth) fuel true [] (text ++ rest)).map fun found => (.array found.1.reverse, found.2) := rfl
  rw [valueBlank blanks, List.cons_append, opened, read]
  simp [Except.map]

theorem valueObject {spells : Value → List Char → Prop} {found : List (String × Value)} {text : List Char}
    (once : (found.map Prod.fst).Nodup)
    (listed : Listed (SpelledMember Prod.fst fun m => spells m.2) '\x7d' true found text)
    (takes : ∀ {x written}, spells x written → Takes (value fuel depth) written x) (enough : found.length < fuel) :
    Takes (value fuel (depth + 1)) ('\x7b' :: text) (.object found) := by
  intro blank rest blanks _
  have read := membersTake listed (membersChain takes [] once) enough rest
  have opened : value fuel (depth + 1) ('\x7b' :: (text ++ rest)) =
      (members (keepMember fuel depth) fuel true [] (text ++ rest)).map fun found => (.object found.1, found.2) := rfl
  rw [valueBlank blanks, List.cons_append, opened, read]
  simp [Except.map]

/- What is inside a value is written in a shorter text, so that the same fuel is enough for it. -/
theorem valueTakes (spelled : Spelled depth v written) (enough : written.length < fuel) :
    Takes (value fuel depth) written v := by
  induction depth generalizing v written with
  | zero => exact valueScalar spelled
  | succ depth ih =>
    have inside : ∀ {x written}, Spelled depth x written ∧ written.length < fuel → Takes (value fuel depth) written x :=
      fun both => ih both.1 both.2
    cases spelled with
    | scalar spelled => exact valueScalar spelled
    | @array items text listed =>
      have few := listedFits listed
      simp only [List.length_cons, Bool.toNat_true] at enough few
      have parts : Listed (fun x written => Spelled depth x written ∧ written.length < fuel) ']' true items text :=
        listedImp listed fun _ _ _ short spelled => ⟨spelled, by omega⟩
      exact valueArray parts (fun _ _ both => spelledOpens both.1) inside (by omega)
    | @object found text once listed =>
      have few := listedFits listed
      simp only [List.length_cons, Bool.toNat_true] at enough few
      have parts : Listed (SpelledMember Prod.fst fun m written => Spelled depth m.2 written ∧ written.length < fuel)
          '\x7d' true found text :=
        listedImp listed fun _ _ _ short spelled =>
          memberRelated spelled rfl fun shorter spelled => ⟨spelled, by omega⟩
      exact valueObject once parts inside (by omega)

theorem documentRead {content : String} (alone : Alone content written) (spelled : Spelled depthLimit v written) :
    Value.ofText? content = some v := by
  obtain ⟨before, after, blanks, blanks', shape⟩ := alone
  have takes : Takes (value (content.toList.length + 1) depthLimit) written v :=
    valueTakes spelled (by simp only [shape, List.length_append]; omega)
  have read := takes before after blanks (blankEnds blanks')
  rw [← shape] at read
  simp [Value.ofText?, read, skipBlankAll blanks']

end SharedPort.Json
