import Mathlib.Data.List.TakeWhile
import Mathlib.Tactic.IntervalCases
import Mathlib.Tactic.SplitIfs
import SharedPort.Text.Basic
import SharedPort.Text.Unicode

/-! Written text is read back whole: the bytes of each character lead the reader from one start of a piece to the next,
with that character found on the way. A trimmed text is cut from one with white space on both sides, and has none at its
ends. -/
namespace SharedPort.Utf8

namespace Decoder

theorem toNatSmall {n : Nat} (small : n < 256) : (UInt8.ofNat n).toNat = n := UInt8.toNat_ofNat_of_lt' small

theorem within {low high : UInt8} {n : Nat} (small : n < 256) :
    (low ≤ UInt8.ofNat n ∧ UInt8.ofNat n ≤ high) ↔ low.toNat ≤ n ∧ n ≤ high.toNat := by
  rw [UInt8.le_iff_toNat_le, UInt8.le_iff_toNat_le, toNatSmall small]

theorem continues (n : Nat) : (0x80 : UInt8).toNat ≤ n % 0x40 + 0x80 ∧ n % 0x40 + 0x80 ≤ (0xBF : UInt8).toNat :=
  ⟨Nat.le_add_left _ _, Nat.add_le_add_right (Nat.le_of_lt_succ (Nat.mod_lt n (by decide))) _⟩

theorem feedSingle (pieces : List (Option Char)) {n : Nat} (ascii : n < 0x80) :
    feed ⟨pieces, none⟩ (UInt8.ofNat n) = ⟨some (Char.ofNat n) :: pieces, none⟩ := by
  have first : UInt8.ofNat n < 0x80 := by
    rw [UInt8.lt_iff_toNat_lt, toNatSmall (by omega)]
    exact ascii
  simp only [feed, start, if_pos first, toNatSmall (by omega : n < 256)]

theorem feedLead (pieces : List (Option Char)) {n : Nat} {lead : Lead} (small : n < 256) (high : 0x80 ≤ n)
    (leads : lead? (UInt8.ofNat n) = some lead) : feed ⟨pieces, none⟩ (UInt8.ofNat n) = ⟨pieces, some lead⟩ := by
  have first : ¬ UInt8.ofNat n < 0x80 := by
    rw [UInt8.lt_iff_toNat_lt, toNatSmall small]
    exact Nat.not_lt.mpr high
  simp only [feed, start, if_neg first, leads]

theorem feedMiddle (pieces : List (Option Char)) {lead : Lead} {n : Nat} (small : n < 256)
    (inside : lead.low.toNat ≤ n ∧ n ≤ lead.high.toNat) (more : 1 < lead.owed) :
    feed ⟨pieces, some lead⟩ (UInt8.ofNat n) =
      ⟨pieces, some ⟨lead.owed - 1, 0x80, 0xBF, lead.bits * 64 + (n - 0x80)⟩⟩ := by
  simp only [feed, if_pos ((within small).mpr inside), if_neg (Nat.not_le.mpr more), toNatSmall small]

theorem feedLast (pieces : List (Option Char)) {lead : Lead} {n : Nat} (small : n < 256)
    (inside : lead.low.toNat ≤ n ∧ n ≤ lead.high.toNat) (last : lead.owed = 1) :
    feed ⟨pieces, some lead⟩ (UInt8.ofNat n) = ⟨some (Char.ofNat (lead.bits * 64 + (n - 0x80))) :: pieces, none⟩ := by
  simp only [feed, if_pos ((within small).mpr inside), if_pos (Nat.le_of_eq last), toNatSmall small]

end Decoder

open Decoder

theorem leadOfTwo {n : Nat} (least : 0xC2 ≤ n) (most : n ≤ 0xDF) :
    lead? (UInt8.ofNat n) = some ⟨1, 0x80, 0xBF, n - 0xC0⟩ := by
  simp only [lead?, toNatSmall (by omega : n < 256), if_pos (And.intro least most)]

/- The range of the second byte leaves out what is no character or has a shorter form. -/
theorem leadOfThree {n : Nat} (most : n < 0x10) : ∃ low high, lead? (UInt8.ofNat (n + 0xE0)) = some ⟨2, low, high, n⟩ ∧
    (low.toNat = if n = 0 then 0xA0 else 0x80) ∧ high.toNat = if n = 13 then 0x9F else 0xBF := by
  interval_cases n <;> exact ⟨_, _, rfl, rfl, rfl⟩

theorem leadOfFour {n : Nat} (most : n ≤ 4) : ∃ low high, lead? (UInt8.ofNat (n + 0xF0)) = some ⟨3, low, high, n⟩ ∧
    (low.toNat = if n = 0 then 0x90 else 0x80) ∧ high.toNat = if n = 4 then 0x8F else 0xBF := by
  interval_cases n <;> exact ⟨_, _, rfl, rfl, rfl⟩

theorem charRead (pieces : List (Option Char)) (c : Char) :
    (String.utf8EncodeChar c).foldl feed ⟨pieces, none⟩ = ⟨some c :: pieces, none⟩ := by
  have scalar : c.toNat < 0xD800 ∨ 0xDFFF < c.toNat ∧ c.toNat < 0x110000 := c.valid
  have value : c.val.toNat = c.toNat := rfl
  have same : Char.ofNat c.toNat = c := Char.ofNat_toNat c
  unfold String.utf8EncodeChar
  simp only [value]
  generalize c.toNat = v at scalar same
  split_ifs with one two three
  · rw [List.foldl_cons, feedSingle pieces (by omega), same]
    rfl
  · have lead := leadOfTwo (n := v / 64 % 0x20 + 0xC0) (by omega) (by omega)
    rw [List.foldl_cons, feedLead pieces (by omega) (by omega) lead, List.foldl_cons,
      feedLast pieces (by omega) (continues _) rfl]
    have bits : (v / 64 % 0x20 + 0xC0 - 0xC0) * 64 + (v % 0x40 + 0x80 - 0x80) = v := by omega
    simp only [bits, same, List.foldl_nil]
  · obtain ⟨low, high, lead, least, most⟩ := leadOfThree (n := v / 4096 % 0x10) (by omega)
    have inside : low.toNat ≤ v / 64 % 0x40 + 0x80 ∧ v / 64 % 0x40 + 0x80 ≤ high.toNat := by
      rw [least, most]
      constructor <;> split_ifs <;> omega
    rw [List.foldl_cons, feedLead pieces (by omega) (by omega) lead, List.foldl_cons,
      feedMiddle pieces (by omega) inside (by simp), List.foldl_cons,
      feedLast pieces (by omega) (continues _) rfl]
    have bits : ((v / 4096 % 0x10) * 64 + (v / 64 % 0x40 + 0x80 - 0x80)) * 64 + (v % 0x40 + 0x80 - 0x80) = v := by omega
    simp only [bits, same, List.foldl_nil]
  · obtain ⟨low, high, lead, least, most⟩ := leadOfFour (n := v / 262144 % 0x08) (by omega)
    have inside : low.toNat ≤ v / 4096 % 0x40 + 0x80 ∧ v / 4096 % 0x40 + 0x80 ≤ high.toNat := by
      rw [least, most]
      constructor <;> split_ifs <;> omega
    rw [List.foldl_cons, feedLead pieces (by omega) (by omega) lead, List.foldl_cons,
      feedMiddle pieces (by omega) inside (by simp), List.foldl_cons, feedMiddle pieces (by omega) (continues _) (by simp),
      List.foldl_cons, feedLast pieces (by omega) (continues _) rfl]
    have bits : ((v / 262144 % 0x08 * 64 + (v / 4096 % 0x40 + 0x80 - 0x80)) * 64 + (v / 64 % 0x40 + 0x80 - 0x80)) * 64 +
        (v % 0x40 + 0x80 - 0x80) = v := by omega
    simp only [bits, same, List.foldl_nil]

theorem charsRead (pieces : List (Option Char)) (text : List Char) :
    (encodeChars text).foldl feed ⟨pieces, none⟩ = ⟨(text.map some).reverse ++ pieces, none⟩ := by
  induction text generalizing pieces with
  | nil => rfl
  | cons c text ih =>
    have whole : encodeChars (c :: text) = String.utf8EncodeChar c ++ encodeChars text := List.flatMap_cons
    rw [whole, List.foldl_append, charRead, ih]
    simp

theorem scanEncode (s : String) : scan (encode s) = s.toList.map some := by
  simp [scan, encode, charsRead, finish]

theorem decodeLossyEncode (s : String) : decodeLossy (encode s) = s := by
  simp [decodeLossy, scanEncode, Function.comp_def]

end SharedPort.Utf8

namespace SharedPort.Blank

variable {p : α → Bool} {xs ys : List α}

theorem dropsFront : xs.dropWhile p = ys ↔
    ∃ before, xs = before ++ ys ∧ (∀ x ∈ before, p x = true) ∧ ∀ x ∈ ys.head?, p x = false := by
  constructor
  · rintro rfl
    refine ⟨xs.takeWhile p, List.takeWhile_append_dropWhile.symm, fun x => List.mem_takeWhile_imp, fun x first => ?_⟩
    have stops := List.head?_dropWhile_not p xs
    rw [Option.mem_def.mp first] at stops
    exact stops
  · rintro ⟨before, rfl, dropped, kept⟩
    rw [List.dropWhile_append_of_pos dropped]
    cases ys with
    | nil => rfl
    | cons x ys => simp [kept x rfl]

theorem dropsTail : dropTail p xs = ys ↔
    ∃ after, xs = ys ++ after ∧ (∀ x ∈ after, p x = true) ∧ ∀ x ∈ ys.getLast?, p x = false := by
  rw [dropTail, List.reverse_eq_iff, dropsFront]
  constructor
  · rintro ⟨before, same, dropped, kept⟩
    refine ⟨before.reverse, ?_, fun x member => dropped x (List.mem_reverse.mp member), fun x last => kept x ?_⟩
    · rw [← List.reverse_reverse xs, same, List.reverse_append, List.reverse_reverse]
    · rwa [List.head?_reverse]
  · rintro ⟨after, rfl, dropped, kept⟩
    refine ⟨after.reverse, List.reverse_append, fun x member => dropped x (List.mem_reverse.mp member),
      fun x first => kept x ?_⟩
    rwa [List.head?_reverse] at first

structure Trimmed (host text : String) : Prop where
  around : ∃ before after, host.toList = before ++ text.toList ++ after ∧
    (∀ c ∈ before, isBlank c = true) ∧ ∀ c ∈ after, isBlank c = true
  first : ∀ c ∈ text.toList.head?, isBlank c = false
  last : ∀ c ∈ text.toList.getLast?, isBlank c = false

theorem trimIs {host text : String} : trim host = text ↔ Trimmed host text := by
  rw [trim, ← String.toList_inj, String.toList_ofList, dropsTail]
  constructor
  · rintro ⟨after, front, blank, last⟩
    obtain ⟨before, whole, blank', first⟩ := dropsFront.mp front
    refine ⟨⟨before, after, by rw [whole, List.append_assoc], blank', blank⟩, fun c same => first c ?_, last⟩
    rw [List.head?_append, Option.mem_def.mp same]
    rfl
  · rintro ⟨⟨before, after, whole, blank', blank⟩, first, last⟩
    cases shape : text.toList with
    | nil =>
      rw [shape, List.append_nil] at whole
      have all : ∀ c ∈ host.toList, isBlank c = true := by
        rw [whole]
        exact List.forall_mem_append.mpr ⟨blank', blank⟩
      exact ⟨[], List.dropWhile_eq_nil_iff.mpr all, nofun, nofun⟩
    | cons c text =>
      rw [shape] at whole first last
      exact ⟨after, dropsFront.mpr ⟨before, by rw [whole, List.append_assoc], blank', first⟩, blank, last⟩

theorem trimSolid {text : String} (solid : ∀ c ∈ text.toList, isBlank c = false) : trim text = text := by
  refine trimIs.mpr ⟨⟨[], [], ?_, nofun, nofun⟩, fun c first => solid c ?_, fun c last => solid c ?_⟩
  · rw [List.nil_append, List.append_nil]
  · exact List.mem_of_mem_head? first
  · exact List.mem_of_mem_getLast? last

end SharedPort.Blank
