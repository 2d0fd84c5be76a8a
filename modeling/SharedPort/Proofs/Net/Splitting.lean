import SharedPort.Config.Basic
import SharedPort.Net.Listen
import SharedPort.Proofs.Number

/-! Addresses and their two parts. Splitting is described by a relation between an address and what it says, and undoes
each way of writing a host and a port. -/
namespace SharedPort.HostPort
open Decimal (Numeral)

theorem splitsLast {text before after : List Char} :
    splitLast text = some (before, after) ↔ text = before ++ ':' :: after ∧ ':' ∉ after := by
  constructor
  · intro split
    have colon : ':' ∈ text := by
      by_contra absent
      rw [splitLastNone.mpr absent] at split
      cases split
    obtain ⟨end', start', cut, last⟩ := List.eq_append_cons_of_mem (List.mem_reverse.mpr colon)
    have whole : text = start'.reverse ++ ':' :: end'.reverse := by
      simpa using congrArg List.reverse cut
    have clear : ':' ∉ end'.reverse := by simpa using last
    rw [whole, splitLastAppend clear] at split
    cases split
    exact ⟨whole, clear⟩
  · rintro ⟨rfl, last⟩
    exact splitLastAppend last

section Runs
variable {c : Char} {rest : List Char}

theorem stops (other : rest.head? ≠ some c) : rest.dropWhile (· = c) = rest := by
  cases rest with
  | nil => rfl
  | cons d rest =>
    have differs : d ≠ c := fun same => other (congrArg some same)
    simp [differs]

theorem dropsRun (k : Nat) (other : rest.head? ≠ some c) : (List.replicate k c ++ rest).dropWhile (· = c) = rest := by
  induction k with
  | zero => exact stops other
  | succ k ih => simpa [List.replicate_succ] using ih

theorem runDropped (c : Char) (text : List Char) :
    (∃ k, text = List.replicate k c ++ text.dropWhile (· = c)) ∧ (text.dropWhile (· = c)).head? ≠ some c := by
  induction text with
  | nil => exact ⟨⟨0, rfl⟩, nofun⟩
  | cons d rest ih =>
    by_cases same : d = c
    · subst same
      obtain ⟨⟨k, split⟩, other⟩ := ih
      simp only [List.dropWhile_cons, decide_true, if_true]
      exact ⟨⟨k + 1, congrArg (d :: ·) split⟩, other⟩
    · have kept : (d :: rest).dropWhile (· = c) = d :: rest := stops fun first => same (Option.some.inj first)
      rw [kept]
      exact ⟨⟨0, rfl⟩, fun first => same (Option.some.inj first)⟩

end Runs

structure Plain (inner : List Char) : Prop where
  opens : inner.head? ≠ some '['
  closes : inner.getLast? ≠ some ']'

inductive Bracketed : List Char → List Char → Prop where
  | around {inner} (opened closed : Nat) (plain : Plain inner) :
      Bracketed (List.replicate opened '[' ++ (inner ++ List.replicate closed ']')) inner

theorem unbracketed {text inner : List Char} (bracketed : Bracketed text inner) : unbracket text = inner := by
  obtain ⟨opened, closed, plain⟩ := bracketed
  have first : (inner ++ List.replicate closed ']').head? ≠ some '[' := by
    cases inner with
    | nil => cases closed <;> simp [List.replicate_succ]
    | cons c inner => exact plain.opens
  have last : inner.reverse.head? ≠ some ']' := by
    rw [List.head?_reverse]
    exact plain.closes
  unfold unbracket Blank.dropTail
  rw [dropsRun opened first, List.reverse_append, List.reverse_replicate, dropsRun closed last, List.reverse_reverse]

theorem bracketed (text : List Char) : Bracketed text (unbracket text) := by
  obtain ⟨⟨opened, front⟩, opens⟩ := runDropped '[' text
  obtain ⟨⟨closed, back⟩, closes⟩ := runDropped ']' (text.dropWhile (· = '[')).reverse
  have middle : text.dropWhile (· = '[') = unbracket text ++ List.replicate closed ']' := by
    have reversed := congrArg List.reverse back
    rwa [List.reverse_reverse, List.reverse_append, List.reverse_replicate] at reversed
  have whole : text = List.replicate opened '[' ++ (unbracket text ++ List.replicate closed ']') := by
    rw [← middle]
    exact front
  have plain : Plain (unbracket text) := by
    constructor
    · intro first
      rw [middle, List.head?_append, first] at opens
      exact opens rfl
    · unfold unbracket Blank.dropTail
      rw [List.getLast?_reverse]
      exact closes
  have around := Bracketed.around opened closed plain
  rwa [← whole] at around

/- A host between brackets, if there is one, and behind the last colon a port. -/
inductive Says : List Char → HostPort → Prop where
  | portOnly {before after : List Char} {port : UInt16} (nothing : Bracketed before []) (last : ':' ∉ after)
      (number : Numeral 65535 after port.toNat) : Says (before ++ ':' :: after) ⟨none, port⟩
  | hostPort {before after : List Char} {h : String} {port : UInt16} (nonempty : h ≠ "")
      (host : Bracketed before h.toList) (last : ':' ∉ after) (number : Numeral 65535 after port.toNat) :
      Says (before ++ ':' :: after) ⟨some h, port⟩

theorem parseCut {address : String} {before after : List Char} (cut : address.toList = before ++ ':' :: after)
    (last : ':' ∉ after) : parse address =
      match Decimal.unsigned Decimal.bound16 after with
      | .error cause => .error (.config (.invalidPort address cause))
      | .ok port => .ok ⟨if unbracket before = [] then none else some (.ofList (unbracket before)), .ofNat port⟩ := by
  have split := splitsLast.mpr ⟨cut, last⟩
  unfold parse
  generalize splitLast address.toList = parts at split ⊢
  subst split
  rfl

theorem parseNumbered {address : String} {before after : List Char} {port : UInt16}
    (cut : address.toList = before ++ ':' :: after) (last : ':' ∉ after) (number : Numeral 65535 after port.toNat) :
    parse address = .ok ⟨if unbracket before = [] then none else some (.ofList (unbracket before)), port⟩ := by
  have read : Decimal.unsigned Decimal.bound16 after = .ok port.toNat := Decimal.unsignedOk.mpr number
  rw [parseCut cut last, read]
  simp

theorem parsesSaid {address : String} {p : HostPort} : parse address = .ok p ↔ Says address.toList p := by
  constructor
  · intro ok
    cases cut : splitLast address.toList with
    | none => simp [parse, cut] at ok
    | some parts =>
      obtain ⟨whole, last⟩ := splitsLast.mp cut
      rw [parseCut whole last] at ok
      cases read : Decimal.unsigned Decimal.bound16 parts.2 with
      | error cause => simp [read] at ok
      | ok n =>
        have number : Numeral 65535 parts.2 n := Decimal.unsignedOk.mp read
        rw [← UInt16.toNat_ofNat_of_lt' (Nat.lt_succ_of_le number.within)] at number
        simp only [read, Except.ok.injEq] at ok
        subst ok
        rw [whole]
        have host := bracketed parts.1
        split_ifs with empty
        · exact .portOnly (empty ▸ host) last number
        · refine .hostPort ?_ (by rwa [String.toList_ofList]) last number
          exact fun same => empty (by simpa using congrArg String.toList same)
  · intro said
    generalize chars : address.toList = text at said
    cases said with
    | portOnly nothing last number => rw [parseNumbered chars last number, unbracketed nothing, if_pos rfl]
    | @hostPort before after h port nonempty host last number =>
      have letters : h.toList ≠ [] := fun none => nonempty (String.toList_inj.mp none)
      rw [parseNumbered chars last number, unbracketed host, if_neg letters, String.ofList_toList]

theorem parseFails {address : String} {e : Error} (failed : parse address = .error e) :
    ':' ∉ address.toList ∧ e = .config (.missingPort address) ∨
      ∃ cause, e = .config (.invalidPort address cause) := by
  cases cut : splitLast address.toList with
  | none =>
    simp only [parse, cut, Except.error.injEq] at failed
    exact .inl ⟨splitLastNone.mp cut, failed.symm⟩
  | some parts =>
    obtain ⟨whole, last⟩ := splitsLast.mp cut
    rw [parseCut whole last] at failed
    cases read : Decimal.unsigned Decimal.bound16 parts.2 with
    | ok => simp [read] at failed
    | error cause =>
      simp only [read, Except.error.injEq] at failed
      exact .inr ⟨cause, failed.symm⟩

theorem noColon (n : Nat) : ':' ∉ Decimal.render n := by
  intro colon
  have digit := Nat.isDigit_of_mem_toDigits (b := 10) (by decide) (by decide) colon
  exact absurd digit (by decide)

theorem portNumber (port : UInt16) : Numeral 65535 (Decimal.render port.toNat) port.toNat :=
  .plain (Decimal.renderDigits (Nat.le_of_lt_succ port.toNat_lt))

theorem parsesWritten {address : String} {before : List Char} {port : UInt16} {h : String} (nonempty : h ≠ "")
    (host : Bracketed before h.toList) (written : address.toList = before ++ ':' :: Decimal.render port.toNat) :
    parse address = .ok ⟨some h, port⟩ := by
  rw [parsesSaid, written]
  exact .hostPort nonempty host (noColon _) (portNumber port)

theorem parsesPort {address : String} {before : List Char} {port : UInt16} (nothing : Bracketed before [])
    (written : address.toList = before ++ ':' :: Decimal.render port.toNat) : parse address = .ok ⟨none, port⟩ := by
  rw [parsesSaid, written]
  exact .portOnly nothing (noColon _) (portNumber port)

theorem bareBracketed {inner : List Char} (plain : Plain inner) : Bracketed inner inner := by
  simpa using Bracketed.around 0 0 plain

theorem onceBracketed {inner : List Char} (plain : Plain inner) : Bracketed ('[' :: (inner ++ [']'])) inner := by
  simpa using Bracketed.around 1 1 plain

theorem bareWritten (h : String) (n : Nat) : s!"{h}:{n}".toList = h.toList ++ ':' :: Decimal.render n := by
  simp only [String.toList_append, List.append_assoc]
  exact congrArg (h.toList ++ ':' :: ·) (String.toList_ofList (l := Nat.toDigits 10 n))

theorem bracketsWritten (h : String) (n : Nat) :
    s!"[{h}]:{n}".toList = '[' :: (h.toList ++ [']']) ++ ':' :: Decimal.render n := by
  simp only [String.toList_append, List.append_assoc, List.cons_append]
  exact congrArg ('[' :: h.toList ++ ']' :: ':' :: ·) (String.toList_ofList (l := Nat.toDigits 10 n))

theorem displayed {c : Config} {h : String} (given : c.host = some h) (nonempty : h ≠ "") :
    c.listenDisplay = s!"{c.network.name}://" ++ s!"[{h}]:{c.port.toNat}" ∨
      c.listenDisplay = s!"{c.network.name}://" ++ s!"{h}:{c.port.toNat}" := by
  unfold Config.listenDisplay
  simp only [given, Option.getD_some]
  split_ifs with colon
  · refine .inl (String.toList_inj.mp ?_)
    simp only [String.toList_append, List.append_assoc]
    rfl
  · refine .inr (String.toList_inj.mp ?_)
    simp only [String.toList_append, List.append_assoc]

/- How one address is split: which are, into what, and what is said of the others. -/
structure Splitting (address : String) : Prop where
  splits : (∃ p, parse address = .ok p) ↔ ∃ before after n,
    address.toList = before ++ ':' :: after ∧ ':' ∉ after ∧ Numeral 65535 after n
  parts : ∀ p, parse address = .ok p ↔ Says address.toList p
  host : ∀ p h, parse address = .ok p → p.host = some h → h ≠ "" ∧ Plain h.toList
  fails : ∀ e, parse address = .error e → ':' ∉ address.toList ∧ e = .config (.missingPort address) ∨
    ∃ cause, e = .config (.invalidPort address cause)

/- The writings of a host and a port that give them back. -/
structure Restored (h : String) (port : UInt16) : Prop where
  bare : parse s!"{h}:{port.toNat}" = .ok ⟨some h, port⟩
  brackets : parse s!"[{h}]:{port.toNat}" = .ok ⟨some h, port⟩
  display : ∀ c : Config, c.host = some h → c.port = port →
    ∃ written, c.listenDisplay = s!"{c.network.name}://" ++ written ∧ parse written = .ok ⟨some h, port⟩

theorem splitting (address : String) : Splitting address := by
  refine ⟨⟨?_, ?_⟩, fun p => parsesSaid, ?_, fun e => parseFails⟩
  · rintro ⟨p, ok⟩
    have said := parsesSaid.mp ok
    generalize address.toList = text at said
    cases said with
    | portOnly _ last number | hostPort _ _ last number => exact ⟨_, _, _, rfl, last, number⟩
  · rintro ⟨before, after, n, cut, last, number⟩
    rw [← UInt16.toNat_ofNat_of_lt' (Nat.lt_succ_of_le number.within)] at number
    exact ⟨_, parseNumbered cut last number⟩
  · intro p h ok some
    have said := parsesSaid.mp ok
    generalize address.toList = text at said
    cases said with
    | portOnly => cases some
    | hostPort nonempty host =>
      cases some
      generalize h.toList = inner at host
      obtain ⟨_, _, plain⟩ := host
      exact ⟨nonempty, plain⟩

theorem restored {h : String} (nonempty : h ≠ "") (plain : Plain h.toList) (port : UInt16) : Restored h port := by
  have bare := parsesWritten nonempty (bareBracketed plain) (bareWritten h port.toNat)
  have brackets := parsesWritten nonempty (onceBracketed plain) (bracketsWritten h port.toNat)
  refine ⟨bare, brackets, ?_⟩
  rintro c given rfl
  rcases displayed given nonempty with display | display
  · exact ⟨_, display, brackets⟩
  · exact ⟨_, display, bare⟩

theorem portAlone (port : UInt16) :
    parse s!":{port.toNat}" = .ok ⟨none, port⟩ ∧ parse s!"[]:{port.toNat}" = .ok ⟨none, port⟩ := by
  have plain : Plain [] := ⟨nofun, nofun⟩
  exact ⟨parsesPort (bareBracketed plain) (bareWritten "" port.toNat),
    parsesPort (onceBracketed plain) (bracketsWritten "" port.toNat)⟩

theorem addressesSplit : (∀ address, Splitting address) ∧
    (∀ (h : String) (port : UInt16), h ≠ "" → Plain h.toList → Restored h port) ∧
    ∀ port : UInt16, parse s!":{port.toNat}" = .ok ⟨none, port⟩ ∧ parse s!"[]:{port.toNat}" = .ok ⟨none, port⟩ :=
  ⟨splitting, fun _ port nonempty plain => restored nonempty plain port, portAlone⟩

theorem unevenSplit : parse "[[fe80::1]:+0443" = .ok ⟨some "fe80::1", 443⟩ ∧ Restored "a[b]:]c" 65535 :=
  ⟨rfl, addressesSplit.2.1 "a[b]:]c" 65535 (by decide) ⟨by decide, by decide⟩⟩

end SharedPort.HostPort
