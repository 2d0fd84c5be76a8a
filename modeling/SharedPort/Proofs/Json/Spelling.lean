import SharedPort.Json.Value
import SharedPort.Proofs.Json.Tokens

/-! Arrays and objects as anyone may write them, with blanks around every part. A reader that takes each item from the
text takes the list of them. -/
namespace SharedPort.Json

variable {α β σ : Type}

/- The text begins with a character that is no blank, and that `close` is not. -/
def Opens (close : Char) (written : List Char) : Prop :=
  ∃ c tail, written = c :: tail ∧ isBlank c = false ∧ c ≠ close

theorem skipBlankOpens {close : Char} {blank written : List Char} (blanks : Blank blank) (opens : Opens close written)
    (rest : List Char) : skipBlank (blank ++ (written ++ rest)) = written ++ rest := by
  obtain ⟨c, tail, rfl, solid, _⟩ := opens
  rw [skipBlankAppend blanks, List.cons_append, skipBlankCons _ solid]

theorem colonTaken {blank : List Char} (blanks : Blank blank) (text : List Char) :
    colon (blank ++ ':' :: text) = .ok ((), text) := by
  simp [colon, skipBlankAppend blanks, skipBlankCons _ (by decide : isBlank ':' = false)]

inductive Lead : Bool → List Char → Prop where
  | first : Lead true []
  | comma {gap} (blanks : Blank gap) : Lead false (gap ++ [','])

inductive Listed (spells : α → List Char → Prop) (close : Char) : Bool → List α → List Char → Prop where
  | none {isFirst gap} (blanks : Blank gap) : Listed spells close isFirst [] (gap ++ [close])
  | item {isFirst mark before x xs written text} (lead : Lead isFirst mark) (blanks : Blank before)
      (spelled : spells x written) (later : Listed spells close false xs text) :
      Listed spells close isFirst (x :: xs) (mark ++ (before ++ (written ++ text)))

variable {spells : α → List Char → Prop} {close : Char} {isFirst : Bool} {xs : List α} {text : List Char}

theorem listedEnds (closes : close = ']' ∨ close = '\x7d') (listed : Listed spells close false xs text)
    (rest : List Char) : Ends (text ++ rest) := by
  cases listed with
  | none blanks =>
    rw [List.append_assoc]
    exact endsBlank blanks (endsCons (by rcases closes with rfl | rfl <;> decide))
  | item lead blanks spelled later =>
    cases lead with
    | comma gap =>
      rw [List.append_assoc, List.append_assoc]
      exact endsBlank gap (endsCons (by decide))

theorem listedFits (listed : Listed spells close isFirst xs text) : xs.length < text.length + isFirst.toNat := by
  induction listed with
  | none => simp only [List.length_append, List.length_cons, List.length_nil]; omega
  | item lead blanks spelled later ih =>
    simp only [Bool.toNat_false, Nat.add_zero] at ih
    cases lead <;> simp only [List.length_append, List.length_cons, List.length_nil, Bool.toNat_true] <;> omega

theorem listedImp {others : α → List Char → Prop} (listed : Listed spells close isFirst xs text)
    (turns : ∀ x ∈ xs, ∀ written, written.length ≤ text.length → spells x written → others x written) :
    Listed others close isFirst xs text := by
  induction listed with
  | none blanks => exact .none blanks
  | item lead blanks spelled later ih =>
    simp only [List.length_append, List.mem_cons] at turns
    refine .item lead blanks (turns _ (.inl rfl) _ (by omega) spelled) (ih fun x member written short => ?_)
    exact turns x (.inr member) written (by omega)

theorem listedRelated {others : β → List Char → Prop} {related : α → β → Prop} {ys : List β}
    (listed : Listed spells close isFirst xs text) (pairs : List.Forall₂ related xs ys)
    (turns : ∀ {x y written}, related x y → spells x written → others y written) :
    Listed others close isFirst ys text := by
  induction listed generalizing ys with
  | none blanks => cases pairs; exact .none blanks
  | item lead blanks spelled later ih =>
    cases pairs with
    | cons pair pairs => exact .item lead blanks (turns pair spelled) (ih pairs)

theorem leadPassed {mark before written : List Char} (lead : Lead isFirst mark) (blanks : Blank before)
    (opens : Opens close written) (closes : close = ']' ∨ close = '\x7d') (rest : List Char) :
    ∃ c tail, skipBlank (mark ++ (before ++ (written ++ rest))) = c :: tail ∧ c ≠ close ∧
      ∃ text, (isFirst = true ∧ text = c :: tail ∨ isFirst = false ∧ comma (c :: tail) = .ok ((), text)) ∧
        skipBlank text = written ++ rest := by
  have skipped := skipBlankOpens blanks opens rest
  obtain ⟨c, tail, rfl, solid, other⟩ := opens
  cases lead with
  | first => exact ⟨c, tail ++ rest, skipped, other, _, .inl ⟨rfl, rfl⟩, skipBlankCons _ solid⟩
  | comma gap =>
    have solidComma : isBlank ',' = false := by decide
    refine ⟨',', before ++ (c :: tail ++ rest), ?_, by rcases closes with rfl | rfl <;> decide, _, .inr ⟨rfl, ?_⟩, skipped⟩
    · simp [skipBlankAppend gap, skipBlankCons _ solidComma]
    · simp [comma, skipBlankCons _ solidComma]

/- How the state of a reader goes on over a list, one item after the other. -/
inductive Chain (step : σ → α → σ → Prop) : σ → List α → σ → Prop where
  | none {s} : Chain step s [] s
  | next {s t u x xs} (first : step s x t) (later : Chain step t xs u) : Chain step s (x :: xs) u

def ItemTaken (item : σ → Reader σ) (spells : α → List Char → Prop) (s : σ) (x : α) (t : σ) : Prop :=
  ∀ written, spells x written → Takes (item s) written t

theorem elementsTake {item : σ → Reader σ} (listed : Listed spells ']' isFirst xs text)
    (opens : ∀ x written, spells x written → Opens ']' written) {s u : σ} (chain : Chain (ItemTaken item spells) s xs u)
    {fuel : Nat} (enough : xs.length < fuel) (rest : List Char) :
    elements item fuel isFirst s (text ++ rest) = .ok (u, rest) := by
  induction listed generalizing s fuel with
  | none blanks =>
    cases chain
    obtain ⟨fuel, rfl⟩ : ∃ n, fuel = n + 1 := ⟨fuel - 1, by omega⟩
    simp [elements, skipBlankAppend blanks, skipBlankCons _ (by decide : isBlank ']' = false)]
  | @item isFirst mark before x xs written text lead blanks spelled later ih =>
    obtain ⟨fuel, rfl⟩ : ∃ n, fuel = n + 1 := ⟨fuel - 1, by omega⟩
    cases chain with
    | next first chain =>
      have value := first written spelled [] _ (by simp [Blank]) (listedEnds (.inl rfl) later rest)
      have others := ih chain (Nat.lt_of_succ_lt_succ enough)
      have solid := opens x written spelled
      obtain ⟨c, tail, skipped, other, text', passed, here⟩ := leadPassed lead blanks solid (.inl rfl) (text ++ rest)
      obtain ⟨d, written', rfl, _, stays⟩ := solid
      simp only [List.nil_append, List.cons_append] at value here
      rw [List.cons_append] at skipped
      simp only [List.append_assoc, List.cons_append]
      rw [elements, skipped]
      rcases passed with ⟨rfl, rfl⟩ | ⟨rfl, passed⟩
      · simp [other, here, stays, value, others, bind, Except.bind]
      · simp [other, passed, here, stays, value, others, bind, Except.bind]

inductive SpelledMember (name : α → String) (spells : α → List Char → Prop) (x : α) : List Char → Prop where
  | mk {key gap before written} (named : SpelledText (name x) key) (blanks : Blank gap) (blanks' : Blank before)
      (spelled : spells x written) : SpelledMember name spells x (key ++ (gap ++ ':' :: (before ++ written)))

theorem memberRelated {name : α → String} {others : β → List Char → Prop} {name' : β → String} {x : α} {y : β}
    {item : List Char} (spelled : SpelledMember name spells x item) (same : name x = name' y)
    (turns : ∀ {written}, written.length ≤ item.length → spells x written → others y written) :
    SpelledMember name' others y item := by
  cases spelled with
  | mk named blanks blanks' spelled =>
    simp only [List.length_append, List.length_cons] at turns
    exact .mk (same ▸ named) blanks blanks' (turns (by omega) spelled)

def MemberTaken (member : σ → String → Reader σ) (name : α → String) (spells : α → List Char → Prop) (s : σ) (x : α)
    (t : σ) : Prop :=
  ∀ before written, Blank before → spells x written → Takes (member s (name x)) (':' :: (before ++ written)) t

theorem memberReached (member : σ → String → Reader σ) {name : α → String} {x : α} {mark before item : List Char}
    (lead : Lead isFirst mark) (blanks : Blank before) (spelled : SpelledMember name spells x item) (fuel : Nat) (s : σ)
    (rest : List Char) :
    ∃ gap before' written, Blank gap ∧ Blank before' ∧ spells x written ∧
      members member (fuel + 1) isFirst s (mark ++ (before ++ (item ++ rest))) = (do
        let (t, text) ← member s (name x) (gap ++ (':' :: (before' ++ written) ++ rest))
        members member fuel false t text) := by
  cases spelled with
  | @mk key gap before' written named blanks' blanks'' spelled =>
    refine ⟨gap, before', written, blanks', blanks'', spelled, ?_⟩
    have solid : Opens '\x7d' (key ++ (gap ++ ':' :: (before' ++ written))) := by
      obtain ⟨tail, rfl⟩ := spelledQuoted named
      exact ⟨'"', _, rfl, by decide, by decide⟩
    obtain ⟨c, tail, skipped, other, text', passed, here⟩ := leadPassed lead blanks solid (.inr rfl) rest
    have read := spelledRead named (gap ++ ':' :: (before' ++ written) ++ rest)
    rw [← List.append_assoc, ← here] at read
    simp only [List.append_assoc, List.cons_append] at skipped read ⊢
    rw [members, skipped]
    rcases passed with ⟨rfl, rfl⟩ | ⟨rfl, passed⟩
    · simp [other, read, bind, Except.bind]
    · simp [other, passed, read, bind, Except.bind]

theorem membersTake {member : σ → String → Reader σ} {name : α → String}
    (listed : Listed (SpelledMember name spells) '\x7d' isFirst xs text) {s u : σ}
    (chain : Chain (MemberTaken member name spells) s xs u) {fuel : Nat} (enough : xs.length < fuel) (rest : List Char) :
    members member fuel isFirst s (text ++ rest) = .ok (u, rest) := by
  induction listed generalizing s fuel with
  | none blanks =>
    cases chain
    obtain ⟨fuel, rfl⟩ : ∃ n, fuel = n + 1 := ⟨fuel - 1, by omega⟩
    simp [members, skipBlankAppend blanks, skipBlankCons _ (by decide : isBlank '\x7d' = false)]
  | @item isFirst mark before x xs written text lead blanks spelled later ih =>
    obtain ⟨fuel, rfl⟩ : ∃ n, fuel = n + 1 := ⟨fuel - 1, by omega⟩
    cases chain with
    | next first chain =>
      obtain ⟨gap, before', value, blanks', blanks'', spelled, reached⟩ :=
        memberReached member lead blanks spelled fuel s (text ++ rest)
      have taken := first before' value blanks'' spelled gap _ blanks' (listedEnds (.inr rfl) later rest)
      simp only [List.append_assoc]
      rw [reached, taken]
      exact ih chain (Nat.lt_of_succ_lt_succ enough)

def Refuses {α : Type} (reader : Reader α) (written : List Char) (e : Fault) : Prop :=
  ∀ blank rest, Blank blank → Ends rest → reader (blank ++ (written ++ rest)) = .error e

def MemberRefused (member : σ → String → Reader σ) (name : α → String) (spells : α → List Char → Prop) (e : Fault) (s : σ)
    (x : α) : Prop :=
  ∀ before written, Blank before → spells x written → Refuses (member s (name x)) (':' :: (before ++ written)) e

/- The first member that is refused ends the reading, whatever stands behind it. -/
theorem membersRefuse {member : σ → String → Reader σ} {name : α → String} {taken others : List α} {x : α} {e : Fault}
    (listed : Listed (SpelledMember name spells) '\x7d' isFirst (taken ++ x :: others) text) {s t : σ}
    (chain : Chain (MemberTaken member name spells) s taken t) (refused : MemberRefused member name spells e t x)
    {fuel : Nat} (enough : taken.length < fuel) (rest : List Char) :
    members member fuel isFirst s (text ++ rest) = .error e := by
  obtain ⟨fuel, rfl⟩ : ∃ n, fuel = n + 1 := ⟨fuel - 1, by omega⟩
  induction chain generalizing isFirst text fuel with
  | none =>
    cases listed with
    | item lead blanks spelled later =>
      obtain ⟨gap, before', value, blanks', blanks'', spelled, reached⟩ :=
        memberReached member lead blanks spelled fuel _ (_ ++ rest)
      have wrong := refused before' value blanks'' spelled gap _ blanks' (listedEnds (.inr rfl) later rest)
      simp only [List.append_assoc]
      rw [reached, wrong]
      rfl
  | next first chain ih =>
    cases listed with
    | item lead blanks spelled later =>
      obtain ⟨gap, before', value, blanks', blanks'', spelled, reached⟩ :=
        memberReached member lead blanks spelled fuel _ (_ ++ rest)
      have taken := first before' value blanks'' spelled gap _ blanks' (listedEnds (.inr rfl) later rest)
      obtain ⟨fuel, rfl⟩ : ∃ n, fuel = n + 1 := ⟨fuel - 1, by simp only [List.length_cons] at enough; omega⟩
      simp only [List.append_assoc]
      rw [reached, taken]
      exact ih later refused fuel (Nat.lt_of_succ_lt_succ enough)

open Printer (separated)

theorem separatedCons (item : List Char) (items : List (List Char)) :
    separated (item :: items) = item ++ items.flatMap (',' :: ·) := by
  induction items generalizing item with
  | nil => simp [separated]
  | cons next items ih => simp [separated, ih]

theorem separatedListed {write : α → List Char} (spelled : ∀ x ∈ xs, spells x (write x)) :
    Listed spells close true xs (separated (xs.map write) ++ [close]) := by
  have none : Blank [] := by decide
  have later : ∀ ys : List α, (∀ y ∈ ys, spells y (write y)) →
      Listed spells close false ys ((ys.map write).flatMap (',' :: ·) ++ [close]) := by
    intro ys spelled
    induction ys with
    | nil => exact .none none
    | cons y ys ih =>
      have others := ih fun z member => spelled z (List.mem_cons_of_mem _ member)
      simpa using Listed.item (.comma none) none (spelled y (List.mem_cons_self ..)) others
  cases xs with
  | nil => exact .none none
  | cons x xs =>
    have others := later xs fun y member => spelled y (List.mem_cons_of_mem _ member)
    have listed := Listed.item .first none (spelled x (List.mem_cons_self ..)) others
    rwa [List.map_cons, separatedCons, List.append_assoc]

theorem renderSpelled {name : α → String} {x : α} {value : List Char} (spelled : spells x value) :
    SpelledMember name spells x (Printer.Member.render ⟨name x, value⟩) :=
  .mk (printedSpelled (name x)) (by decide : Blank []) (by decide : Blank []) spelled

end SharedPort.Json
