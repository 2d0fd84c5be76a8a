import Mathlib.Data.List.Forall2
import Mathlib.Tactic.SplitIfs
import SharedPort.Net.Address

/-! The texts that are addresses. A number of an IPv4 address is written as it is printed. A group of an IPv6 address
has one to four digits of base sixteen in either case, with zeros in front or without. Reading takes these texts and no
others. -/
namespace SharedPort.IpAddress

variable {base d : Nat} {c : Char} {ds : List Nat} {text front rest : List Char}

def Ends (base : Nat) (rest : List Char) : Prop := ∀ c ∈ rest.head?, digitIn base c = none

def Figures (base : Nat) : List Char → List Nat → Prop := List.Forall₂ fun c d => digitIn base c = some d

theorem digitLess (digit : digitIn base c = some d) : d < base := by
  simp only [digitIn, Option.filter_eq_some_iff, decide_eq_true_eq] at digit
  exact digit.2

theorem digitPrinted (digit : digitIn 10 c = some d) : c = d.digitChar := by
  have small := digitLess digit
  simp only [digitIn, Option.filter_eq_some_iff] at digit
  obtain ⟨value, _⟩ := digit
  split_ifs at value with figure
  · have place : 48 ≤ c.toNat ∧ c.toNat ≤ 57 := figure
    have same : c.toNat - 48 = d := Option.some.inj value
    exact Char.toNat_inj.mp (by rw [Nat.toNat_digitChar_of_lt_ten small]; omega)
  all_goals
    have same := Option.some.inj value
    omega

theorem digitAlso (digit : digitIn 10 c = some d) : digitIn 16 c = some d := by
  simp only [digitIn, Option.filter_eq_some_iff, decide_eq_true_eq] at digit ⊢
  exact ⟨digit.1, by omega⟩

theorem endsAlso (ends : Ends 16 rest) : Ends 10 rest := by
  intro c first
  by_contra some
  obtain ⟨d, digit⟩ := Option.ne_none_iff_exists'.mp some
  have none := ends c first
  rw [digitAlso digit] at none
  cases none

theorem digitRunIs :
    digitRun base text = (ds, rest) ↔ ∃ front, text = front ++ rest ∧ Figures base front ds ∧ Ends base rest := by
  constructor
  · intro run
    induction text generalizing ds with
    | nil =>
      cases run
      exact ⟨[], rfl, .nil, nofun⟩
    | cons c text ih =>
      unfold digitRun at run
      split at run
      · rename_i none
        cases run
        exact ⟨[], rfl, .nil, fun first same => Option.some.inj same ▸ none⟩
      · rename_i d digit
        cases run
        obtain ⟨front, same, figures, ends⟩ := ih rfl
        exact ⟨c :: front, congrArg (c :: ·) same, .cons digit figures, ends⟩
  · rintro ⟨front, rfl, figures, ends⟩
    induction figures with
    | nil =>
      cases rest with
      | nil => rfl
      | cons c rest => simp [digitRun, ends c rfl]
    | cons digit _ ih =>
      simp only [List.cons_append, digitRun, digit]
      rw [ih]

theorem printedOn {value : Nat} (figures : Figures 10 front ds) (positive : 0 < value) :
    Nat.toDigits 10 value ++ front = Nat.toDigits 10 (ds.foldl (fun n d => n * 10 + d) value) := by
  induction figures generalizing value with
  | nil => exact List.append_nil _
  | @cons c d front ds digit _ ih =>
    have small := digitLess digit
    have one : [c] = Nat.toDigits 10 d := by rw [Nat.toDigits_of_lt_base small, ← digitPrinted digit]
    rw [List.foldl_cons, ← ih (by omega), ← List.singleton_append, ← List.append_assoc, one,
      Nat.toDigits_append_toDigits (by decide) positive small, Nat.mul_comm]

theorem printed (figures : Figures 10 front ds) (nonempty : ds ≠ []) (plain : ds.head? = some 0 → ds.length ≤ 1) :
    front = Nat.toDigits 10 (valueOf 10 ds) := by
  cases figures with
  | nil => exact absurd rfl nonempty
  | @cons c d front ds digit figures =>
    have one : Nat.toDigits 10 d = [c] := by rw [Nat.toDigits_of_lt_base (digitLess digit), ← digitPrinted digit]
    have value : valueOf 10 (d :: ds) = ds.foldl (fun n d => n * 10 + d) d := by simp [valueOf]
    rcases Nat.eq_zero_or_pos d with rfl | positive
    · have alone : ds = [] := List.eq_nil_of_length_eq_zero (by simpa using plain rfl)
      subst alone
      cases figures
      exact one.symm
    · rw [value, ← printedOn figures positive, one]
      rfl

theorem valueBelow (figures : Figures base front ds) (value : Nat) :
    ds.foldl (fun n d => n * base + d) value < (value + 1) * Nat.pow base ds.length := by
  induction figures generalizing value with
  | nil => exact Nat.lt_of_lt_of_eq (Nat.lt_succ_self value) (Nat.mul_one _).symm
  | @cons c d front ds digit _ ih =>
    have more : value * base + d + 1 ≤ (value + 1) * base := by
      have small := digitLess digit
      rw [Nat.add_mul]
      omega
    calc ds.foldl (fun n d => n * base + d) (value * base + d)
        < (value * base + d + 1) * Nat.pow base ds.length := ih _
      _ ≤ (value + 1) * base * Nat.pow base ds.length := Nat.mul_le_mul_right _ more
      _ = (value + 1) * (Nat.pow base ds.length * base) := by rw [Nat.mul_assoc, Nat.mul_comm base]

theorem octetRun {b : UInt8} (read : octet text = some (b, rest)) : ∃ ds, digitRun 10 text = (ds, rest) ∧
    ds ≠ [] ∧ (ds.head? = some 0 → ds.length ≤ 1) ∧ b.toNat = valueOf 10 ds := by
  simp only [octet] at read
  split_ifs at read with faulty
  cases read
  simp only [not_or, not_and, Nat.not_lt] at faulty
  obtain ⟨nonempty, _, plain, small⟩ := faulty
  refine ⟨_, rfl, nonempty, plain, ?_⟩
  rw [UInt8.toNat_ofNat']
  omega

theorem octetsRead : ∀ n < 256, octet (Nat.toDigits 10 n) = some (UInt8.ofNat n, []) := by decide +kernel

theorem octetMore {b : UInt8} (read : octet text = some (b, [])) (ends : Ends 10 rest) :
    octet (text ++ rest) = some (b, rest) := by
  obtain ⟨ds, run, _⟩ := octetRun read
  obtain ⟨front, whole, figures, _⟩ := digitRunIs.mp run
  rw [List.append_nil] at whole
  have further : digitRun 10 (text ++ rest) = (ds, rest) := digitRunIs.mpr ⟨front, by rw [whole], figures, ends⟩
  simp only [octet, run, further] at read ⊢
  split_ifs at read ⊢
  cases read
  rfl

theorem octetReads {b : UInt8} :
    octet text = some (b, rest) ↔ text = Nat.toDigits 10 b.toNat ++ rest ∧ Ends 10 rest := by
  constructor
  · intro read
    obtain ⟨ds, run, nonempty, plain, value⟩ := octetRun read
    obtain ⟨front, rfl, figures, ends⟩ := digitRunIs.mp run
    rw [value, ← printed figures nonempty plain]
    exact ⟨rfl, ends⟩
  · rintro ⟨rfl, ends⟩
    have read := octetsRead b.toNat b.toNat_lt
    rw [UInt8.ofNat_toNat] at read
    exact octetMore read ends

theorem expectReads {mark : Char} {u : Unit} : expect mark text = some (u, rest) ↔ text = mark :: rest := by
  cases text with
  | nil => exact ⟨nofun, nofun⟩
  | cons c text =>
    simp only [expect]
    split_ifs with same
    · subst same
      simp
    · simp [same]

def Quad.dotted (q : Quad) : List Char := (renderV4 q.a q.b q.c q.d).toList

theorem Quad.inFour (q : Quad) : q.dotted = Nat.toDigits 10 q.a.toNat ++ '.' :: (Nat.toDigits 10 q.b.toNat ++
    '.' :: (Nat.toDigits 10 q.c.toNat ++ '.' :: Nat.toDigits 10 q.d.toNat)) := by
  have dot : (toString ".").toList = ['.'] := rfl
  simp [dotted, renderV4, dot]

theorem dotEnds : Ends 10 ('.' :: rest) := fun _ first => Option.some.inj first ▸ (by decide)

theorem quadReads {q : Quad} : quad text = some (q, rest) ↔ text = q.dotted ++ rest ∧ Ends 10 rest := by
  simp only [quad, bind, Option.bind_eq_some_iff, Prod.exists, octetReads, expectReads, q.inFour]
  constructor
  · rintro ⟨a, _, ⟨rfl, _⟩, _, _, rfl, b, _, ⟨rfl, _⟩, _, _, rfl, c, _, ⟨rfl, _⟩, _, _, rfl, d, _, ⟨rfl, ends⟩, last⟩
    cases last
    exact ⟨by simp, ends⟩
  · rintro ⟨rfl, ends⟩
    exact ⟨_, _, ⟨by simp, dotEnds⟩, (), _, rfl, _, _, ⟨rfl, dotEnds⟩, (), _, rfl, _, _, ⟨rfl, dotEnds⟩, (), _, rfl,
      _, _, ⟨rfl, ends⟩, rfl⟩

structure Group (text : List Char) (g : UInt16) : Prop where
  nonempty : text ≠ []
  short : text.length ≤ 4
  value : ∃ ds, Figures 16 text ds ∧ valueOf 16 ds = g.toNat

theorem groupReads {g : UInt16} :
    group text = some (g, rest) ↔ ∃ front, text = front ++ rest ∧ Group front g ∧ Ends 16 rest := by
  constructor
  · intro read
    simp only [group] at read
    split_ifs at read with faulty
    cases read
    obtain ⟨front, whole, figures, ends⟩ := digitRunIs.mp (rfl : digitRun 16 text = _)
    have long : front.length = _ := figures.length_eq
    simp only [not_or, Nat.not_lt, ← long] at faulty
    have below := valueBelow figures 0
    rw [← long, Nat.zero_add, Nat.one_mul] at below
    have bound : Nat.pow 16 front.length ≤ Nat.pow 16 4 := Nat.pow_le_pow_right (by decide) faulty.2
    refine ⟨front, whole, ⟨?_, faulty.2, _, figures, ?_⟩, ends⟩
    · rintro rfl
      exact faulty.1 (List.eq_nil_of_length_eq_zero long.symm)
    · exact (UInt16.toNat_ofNat_of_lt' (Nat.lt_of_lt_of_le below bound)).symm
  · rintro ⟨front, rfl, ⟨nonempty, short, ds, figures, value⟩, ends⟩
    have run : digitRun 16 (front ++ rest) = (ds, rest) := digitRunIs.mpr ⟨front, rfl, figures, ends⟩
    have long : front.length = ds.length := figures.length_eq
    have some : ds ≠ [] := by
      rintro rfl
      exact nonempty (List.eq_nil_of_length_eq_zero long)
    simp only [group, run]
    rw [if_neg (by simp only [some, false_or]; omega), value, UInt16.ofNat_toNat]

theorem nothingRead (ends : Ends 16 text) : quad text = none ∧ group text = none := by
  have none : ∀ {base}, Ends base text → digitRun base text = ([], text) :=
    fun ends => digitRunIs.mpr ⟨[], rfl, .nil, ends⟩
  constructor
  · simp [quad, octet, none (endsAlso ends), bind]
  · simp [group, none ends]

theorem quadRefused {g : UInt16} (read : group text = some (g, rest)) (other : rest.head? ≠ some '.') :
    quad text = none := by
  refine Option.eq_none_iff_forall_ne_some.mpr fun ⟨q, left⟩ taken => ?_
  simp only [quad, bind, Option.bind_eq_some_iff, Prod.exists, expectReads] at taken
  obtain ⟨a, _, octet, _, _, rfl, _⟩ := taken
  obtain ⟨ds, run, _⟩ := octetRun octet
  obtain ⟨front, whole, figures, _⟩ := digitRunIs.mp run
  have run16 : digitRun 16 text = _ := digitRunIs.mpr ⟨front, whole, figures.imp fun _ _ => digitAlso,
    fun _ first => Option.some.inj first ▸ (by decide)⟩
  obtain ⟨front', whole', ⟨_, _, ds', figures', _⟩, ends'⟩ := groupReads.mp read
  have run16' : digitRun 16 text = (ds', rest) := digitRunIs.mpr ⟨front', whole', figures', ends'⟩
  rw [run16] at run16'
  cases run16'
  exact other rfl

def gap (isFirst : Bool) : List Char := if isFirst then [] else [':']

theorem separatedReads {isFirst : Bool} {item : Reader α} {value : α} :
    separated isFirst item text = some (value, rest) ↔
      ∃ front, text = gap isFirst ++ front ∧ item front = some (value, rest) := by
  cases isFirst with
  | true => simp [separated, gap]
  | false => simp [separated, gap, bind, Option.bind_eq_some_iff, expectReads]

theorem separatedGap (isFirst : Bool) (item : Reader α) (text : List Char) :
    separated isFirst item (gap isFirst ++ text) = item text := by
  cases isFirst <;> rfl

/- Groups with a colon between each two; an IPv4 address may be the last. -/
inductive Grouped : Bool → List Char → List UInt16 → Bool → Prop where
  | none {isFirst} : Grouped isFirst [] [] false
  | quad {isFirst} (q : Quad) : Grouped isFirst (gap isFirst ++ q.dotted) q.groups true
  | next {isFirst front text g groups endsInQuad} (group : Group front g)
      (later : Grouped false text groups endsInQuad) :
      Grouped isFirst (gap isFirst ++ (front ++ text)) (g :: groups) endsInQuad

theorem groupRunGrouped (limit : Nat) (isFirst : Bool) (text : List Char) :
    ∃ front, text = front ++ (groupRun limit isFirst text).rest ∧
      Grouped isFirst front (groupRun limit isFirst text).groups (groupRun limit isFirst text).endsInQuad ∧
      (groupRun limit isFirst text).groups.length ≤ limit := by
  induction limit generalizing isFirst text with
  | zero => exact ⟨[], rfl, .none, Nat.le_refl 0⟩
  | succ limit ih =>
    unfold groupRun
    split
    · rename_i q rest taken
      split_ifs at taken with last
      obtain ⟨front, rfl, read⟩ := separatedReads.mp taken
      obtain ⟨rfl, _⟩ := quadReads.mp read
      refine ⟨gap isFirst ++ q.dotted, (List.append_assoc _ _ _).symm, .quad q, ?_⟩
      simp only [Quad.groups, List.length_cons, List.length_nil]
      omega
    · split
      · exact ⟨[], rfl, .none, Nat.zero_le _⟩
      · rename_i g rest taken
        obtain ⟨_, rfl, read⟩ := separatedReads.mp taken
        obtain ⟨front, rfl, group, _⟩ := groupReads.mp read
        obtain ⟨more, whole, later, few⟩ := ih false rest
        exact ⟨gap isFirst ++ (front ++ more), by simp only [List.append_assoc, ← whole], .next group later,
          Nat.succ_le_succ few⟩

def Halts (rest : List Char) : Prop := rest = [] ∨ ∃ more, rest = ':' :: ':' :: more

def Pauses (rest : List Char) : Prop := ∀ c ∈ rest.head?, c = ':'

theorem Pauses.ends (pauses : Pauses rest) : Ends 16 rest := by
  intro c first
  rw [pauses c first]
  decide

theorem Halts.pauses (halts : Halts rest) : Pauses rest := by
  rcases halts with rfl | ⟨more, rfl⟩
  · exact nofun
  · exact fun _ first => (Option.some.inj first).symm

theorem Halts.nothing {isFirst : Bool} {item : Reader α} (halts : Halts rest)
    (refused : ∀ text, Pauses text → item text = none) : separated isFirst item rest = none := by
  refine Option.eq_none_iff_forall_ne_some.mpr fun ⟨value, left⟩ taken => ?_
  obtain ⟨front, rfl, read⟩ := separatedReads.mp taken
  have pauses : Pauses front := by
    cases isFirst with
    | true => exact halts.pauses
    | false =>
      rcases halts with none | ⟨more, some⟩
      · cases none
      · cases some
        exact fun _ first => (Option.some.inj first).symm
  rw [refused front pauses] at read
  cases read

theorem Grouped.pauses {groups : List UInt16} {endsInQuad : Bool} (grouped : Grouped false text groups endsInQuad)
    (halts : Halts rest) : Pauses (text ++ rest) := by
  cases grouped with
  | none => exact halts.pauses
  | quad | next => exact fun _ first => (Option.some.inj first).symm

theorem groupRunTakes {limit : Nat} {isFirst endsInQuad : Bool} {groups : List UInt16}
    (grouped : Grouped isFirst text groups endsInQuad) (halts : Halts rest) (few : groups.length ≤ limit) :
    groupRun limit isFirst (text ++ rest) = ⟨groups, endsInQuad, rest⟩ := by
  induction grouped generalizing limit with
  | @none isFirst =>
    cases limit with
    | zero => rfl
    | succ limit =>
      have noQuad : separated isFirst IpAddress.quad rest = none :=
        halts.nothing fun _ pauses => (nothingRead pauses.ends).1
      have noGroup : separated isFirst IpAddress.group rest = none :=
        halts.nothing fun _ pauses => (nothingRead pauses.ends).2
      simp only [groupRun, List.nil_append, noQuad, noGroup, ite_self]
  | quad q =>
    match limit, few with
    | limit + 2, _ =>
      have taken : IpAddress.quad (q.dotted ++ rest) = some (q, rest) := quadReads.mpr ⟨rfl, endsAlso halts.pauses.ends⟩
      simp only [groupRun, Nat.succ_ne_zero, if_false, List.append_assoc, separatedGap, taken]
  | @next _ front text g groups _ group later ih =>
    match limit, few with
    | limit + 1, few =>
      have pauses := later.pauses halts
      have read : IpAddress.group (front ++ (text ++ rest)) = some (g, text ++ rest) :=
        groupReads.mpr ⟨front, rfl, group, pauses.ends⟩
      have refused := quadRefused read fun dot => by cases pauses '.' dot
      simp only [groupRun, List.append_assoc, separatedGap, refused, read, ite_self, ih (Nat.le_of_succ_le_succ few)]

/- The texts of an address. Where fewer than eight groups are written, the others are zeros and left out at `::`. -/
inductive Written : List Char → IpAddress → Prop where
  | four (a b c d : UInt8) : Written (renderV4 a b c d).toList (.v4 a b c d)
  | full {text groups endsInQuad} (grouped : Grouped true text groups endsInQuad) (eight : groups.length = 8) :
      Written text (ofGroups groups)
  | shortened {text text' head tail endsInQuad} (before : Grouped true text head false)
      (after : Grouped true text' tail endsInQuad) (fewer : head.length + tail.length < 8) :
      Written (text ++ ':' :: ':' :: text')
        (ofGroups (head ++ List.replicate (8 - head.length - tail.length) 0 ++ tail))

theorem v6Written {ip : IpAddress} (read : v6Text text = some (ip, [])) : Written text ip := by
  obtain ⟨front, whole, grouped, few⟩ := groupRunGrouped 8 true text
  simp only [v6Text] at read
  generalize groupRun 8 true text = head at *
  split_ifs at read with eight inQuad
  · injection read with same
    injection same with same left
    rw [left, List.append_nil] at whole
    exact same ▸ whole ▸ .full grouped eight
  · simp only [bind, Option.bind_eq_some_iff, Prod.exists, expectReads] at read
    obtain ⟨_, between, colon, _, behind, colon', last⟩ := read
    obtain ⟨back, whole', grouped', few'⟩ := groupRunGrouped (7 - head.groups.length) true behind
    generalize groupRun (7 - head.groups.length) true behind = tail at *
    injection last with same
    injection same with same left
    rw [left, List.append_nil] at whole'
    rw [Bool.not_eq_true] at inQuad
    rw [inQuad] at grouped
    rw [whole, colon, colon', whole', ← same]
    exact .shortened grouped grouped' (by omega)

theorem writtenV6 {ip : IpAddress} (written : Written text ip) (six : ip.isV4 = false) :
    v6Text text = some (ip, []) := by
  cases written with
  | four => cases six
  | full grouped eight =>
    have head := groupRunTakes grouped (.inl rfl) (Nat.le_of_eq eight)
    rw [List.append_nil] at head
    simp only [v6Text, head, eight, if_true]
  | @shortened text text' head tail endsInQuad before after fewer =>
    have first := groupRunTakes before (.inr ⟨text', rfl⟩) (by omega : head.length ≤ 8)
    have second := groupRunTakes after (.inl rfl) (by omega : tail.length ≤ 7 - head.length)
    rw [List.append_nil] at second
    have some : head.length ≠ 8 := by omega
    simp [v6Text, first, second, some, expect, bind]

/- An IPv6 address does not begin with an IPv4 address, so the order in which both are tried does not matter. -/
theorem v4Refused {ip : IpAddress} (read : v6Text text = some (ip, [])) : v4Text text = none := by
  refine Option.eq_none_iff_forall_ne_some.mpr fun ⟨four, left⟩ taken => ?_
  obtain ⟨⟨q, left⟩, taken, _⟩ := Option.map_eq_some_iff.mp taken
  have head : groupRun 8 true text = ⟨q.groups, true, left⟩ := by
    simp [groupRun, separated, taken]
  simp [v6Text, head, Quad.groups] at read

theorem charsRead {ip : IpAddress} : complete ((v4Text text).or (v6Text text)) = some ip ↔ Written text ip := by
  constructor
  · intro read
    simp only [complete] at read
    split at read
    · rename_i value whole
      cases read
      rcases Option.or_eq_some_iff.mp whole with four | ⟨_, six⟩
      · obtain ⟨⟨q, left⟩, taken, same⟩ := Option.map_eq_some_iff.mp four
        cases same
        obtain ⟨same, _⟩ := quadReads.mp taken
        rw [same, List.append_nil]
        exact .four q.a q.b q.c q.d
      · exact v6Written six
    · cases read
  · intro written
    cases family : ip.isV4 with
    | true =>
      cases written with
      | four a b c d =>
        have taken : quad (renderV4 a b c d).toList = some (⟨a, b, c, d⟩, []) :=
          quadReads.mpr ⟨(List.append_nil _).symm, nofun⟩
        simp [v4Text, taken, complete]
      | full | shortened => cases family
    | false =>
      have six := writtenV6 written family
      rw [v4Refused six, six]
      rfl

theorem readsWritten {text : String} {ip : IpAddress} : ofText? text = some ip ↔ Written text.toList ip := charsRead

end SharedPort.IpAddress
