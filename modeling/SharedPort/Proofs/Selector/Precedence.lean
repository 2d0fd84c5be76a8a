import Mathlib.Data.List.ReduceOption
import SharedPort.Proofs.Config.Matchable
import SharedPort.Proofs.Selector.Undisturbed

/-! When the order of registrations matters: when two keys are both matched by some prefix, and for nothing else. -/
namespace SharedPort
open Config (matchedWhole matchEqual matchLeading matchInsensitive exactLength)

/- Some prefix of the size that is read belongs to both keys. -/
def MatchMode.Meet (mode : MatchMode) (size : Nat) (a b : Bytes) : Prop :=
  ∃ p : Bytes, p.length = size ∧ mode.isMatch p a size = true ∧ mode.isMatch p b size = true

/- No two of the keys are so alike that they meet, read off the keys. -/
def MatchMode.Apart (mode : MatchMode) (a b : Bytes) : Prop :=
  match mode with
  | .equal => True
  | .leading => ¬ a <+: b
  | .caseInsensitive => Bytes.lower a ≠ Bytes.lower b

section Meeting
variable {size : Nat} {a b : Bytes}

theorem meetEqual (meet : MatchMode.equal.Meet size a b) : a = b := by
  obtain ⟨p, whole, first, second⟩ := meet
  exact ((matchEqual whole).mp first).symm.trans ((matchEqual whole).mp second)

theorem meetLeading (meet : MatchMode.leading.Meet size a b) : a <+: b ∨ b <+: a := by
  obtain ⟨p, whole, first, second⟩ := meet
  exact List.prefix_or_prefix_of_prefix ((matchLeading whole).mp first).2 ((matchLeading whole).mp second).2

theorem nestedMeet (first : FitKey .leading size a) (second : FitKey .leading size b) (front : a <+: b) :
    MatchMode.leading.Meet size a b := by
  have positive : 0 < b.length := List.length_pos_iff.mpr (List.isEmpty_eq_false_iff.mp second.nonempty)
  obtain ⟨p, whole, asks⟩ := (reachesIff (positive.trans_le second.fits)).mpr second
  obtain ⟨_, behind⟩ := (matchLeading whole).mp asks
  exact ⟨p, whole, (matchLeading whole).mpr ⟨first.nonempty, front.trans behind⟩, asks⟩

theorem meetInsensitive (meet : MatchMode.caseInsensitive.Meet size a b) : Bytes.lower a = Bytes.lower b := by
  obtain ⟨p, whole, first, second⟩ := meet
  exact ((matchInsensitive whole).mp first).symm.trans ((matchInsensitive whole).mp second)

theorem alikeMeet (fit : FitKey .caseInsensitive size a) (same : Bytes.lower a = Bytes.lower b) :
    MatchMode.caseInsensitive.Meet size a b := by
  have whole : a.length = size := exactLength (by decide) fit.mode
  exact ⟨a, whole, (matchInsensitive whole).mpr rfl, (matchInsensitive whole).mpr same⟩

end Meeting

theorem meetsApart {mode : MatchMode} {size : Nat} {keys : List Bytes} (fit : ∀ key ∈ keys, FitKey mode size key) :
    (∀ a ∈ keys, ∀ b ∈ keys, a ≠ b → ¬ mode.Meet size a b) ↔ ∀ a ∈ keys, ∀ b ∈ keys, a ≠ b → mode.Apart a b := by
  cases mode with
  | equal => exact iff_of_true (fun a _ b _ other meet => other (meetEqual meet)) fun _ _ _ _ _ => trivial
  | leading =>
    constructor
    · intro none a first b second other front
      exact none a first b second other (nestedMeet (fit a first) (fit b second) front)
    · intro apart a first b second other meet
      rcases meetLeading meet with front | front
      · exact apart a first b second other front
      · exact apart b second a first other.symm front
  | caseInsensitive =>
    constructor
    · exact fun none a first b second other same => none a first b second other (alikeMeet (fit a first) same)
    · exact fun apart a first b second other meet => apart a first b second other (meetInsensitive meet)

theorem findOnly {α : Type} {p : α → Bool} {xs ys : List α} (perm : xs.Perm ys)
    (only : ∀ a ∈ xs, ∀ b ∈ xs, p a = true → p b = true → a = b) : xs.find? p = ys.find? p := by
  cases found : ys.find? p with
  | none =>
    exact List.find?_eq_none.mpr fun a member => List.find?_eq_none.mp found a (perm.mem_iff.mp member)
  | some b =>
    have fits := List.find?_some found
    have listed := perm.mem_iff.mpr (List.mem_of_find?_eq_some found)
    obtain ⟨a, first⟩ := Option.isSome_iff_exists.mp (List.find?_isSome.mpr ⟨b, listed, fits⟩)
    rw [first, only a (List.mem_of_find?_eq_some first) b listed (List.find?_some first) fits]

namespace Selector
namespace State

def enroll (s : State) : Option Bytes → Except Error Nat × State
  | some key => s.register key
  | none => s.registerDefault

def enrollAll (s : State) (order : List (Option Bytes)) : State := order.foldl (fun s key => (s.enroll key).2) s

def Admits : State → List (Option Bytes) → Prop
  | _, [] => True
  | s, key :: rest => (∃ l, (s.enroll key).1 = .ok l) ∧ Admits (s.enroll key).2 rest

def leads (s : State) (p : Bytes) : Option (Option Bytes) :=
  (s.registry.route s.setup.rule s.setup.headerSize p).bind fun l => (s.listeners[l]?).map Listener.key

structure Enrolled (setup : Setup) (order : List (Option Bytes)) (s : State) : Prop where
  setup : s.setup = setup
  isOpen : s.closed = false
  keys : s.registry.keys = order.reduceOption
  unmatched : s.registry.unmatched.isSome = order.contains none
  listeners : s.listeners.map Listener.key = order
  order : s.InOrder

variable {setup : Setup} {order : List (Option Bytes)} {s : State}

theorem enrolledOne (enrolled : Enrolled setup order s) {key : Option Bytes} (fresh : key ∉ order)
    (valid : ∀ k, key = some k → setup.validateKey k = .ok ()) :
    (∃ l, (s.enroll key).1 = .ok l) ∧ Enrolled setup (order ++ [key]) (s.enroll key).2 := by
  obtain ⟨same, isOpen, keys, unmatched, listeners, inOrder⟩ := enrolled
  cases key with
  | some k =>
    have checked : s.setup.validateKey k = .ok () := same ▸ valid k rfl
    have absent : k ∉ s.registry.keys := by
      rw [keys, List.reduceOption_mem_iff]
      exact fresh
    have next := inOrderApply inOrder (.register k)
    simp only [apply] at next
    simp only [enroll, registerAnswers, checked, isOpen, Bool.false_eq_true, if_false, if_neg absent] at next ⊢
    refine ⟨⟨_, rfl⟩, same, rfl, ?_, ?_, ?_, next⟩
    · simpa [Registry.keys, List.reduceOption_append] using keys
    · simp [unmatched]
    · simp [listeners, newListener]
  | none =>
    have absent : s.registry.unmatched.isSome = false := by
      rw [unmatched]
      simpa using fresh
    have next := inOrderApply inOrder .registerDefault
    simp only [apply] at next
    simp only [enroll, registerDefaultAnswers, isOpen, absent, Bool.false_eq_true, if_false] at next ⊢
    refine ⟨⟨_, rfl⟩, same, rfl, ?_, ?_, ?_, next⟩
    · simpa [Registry.keys, List.reduceOption_append] using keys
    · simp
    · simp [listeners, newListener]

theorem enrolledAll {rest : List (Option Bytes)} (enrolled : Enrolled setup order s) (distinct : (order ++ rest).Nodup)
    (valid : ∀ k, some k ∈ rest → setup.validateKey k = .ok ()) :
    s.Admits rest ∧ Enrolled setup (order ++ rest) (s.enrollAll rest) := by
  induction rest generalizing order s with
  | nil => exact ⟨trivial, by rwa [List.append_nil]⟩
  | cons key rest ih =>
    have fresh : key ∉ order := fun old => (List.nodup_append.mp distinct).2.2 key old key List.mem_cons_self rfl
    obtain ⟨admitted, next⟩ := enrolledOne enrolled fresh fun k same => valid k (same ▸ List.mem_cons_self)
    have regrouped : order ++ key :: rest = order ++ [key] ++ rest := by simp
    rw [regrouped] at distinct ⊢
    obtain ⟨later, last⟩ := ih next distinct fun k member => valid k (List.mem_cons_of_mem _ member)
    exact ⟨⟨admitted, later⟩, last⟩

theorem Enrolled.leads (enrolled : Enrolled setup order s) (p : Bytes) : s.leads p =
    ((order.reduceOption.find? fun key => setup.rule.isMatch p key setup.headerSize).map some).or
      (if none ∈ order then some none else none) := by
  have lead : s.leads p = s.registry.leadKey s.setup.rule s.setup.headerSize p := by
    have told := enrolled.order.leadKey p
    unfold State.leads
    cases route : s.registry.route s.setup.rule s.setup.headerSize p with
    | none =>
      rw [route] at told
      exact told.symm
    | some l =>
      rw [route] at told
      obtain ⟨L, found, key⟩ := told
      rw [key, Option.bind_some, found, Option.map_some]
  have default : (s.registry.unmatched.map fun _ => (none : Option Bytes)) = if none ∈ order then some none else none := by
    have present := enrolled.unmatched
    by_cases listed : none ∈ order
    · obtain ⟨l, found⟩ := Option.isSome_iff_exists.mp (present.trans (by simpa using listed))
      rw [found, if_pos listed, Option.map_some]
    · have absent : s.registry.unmatched = none := by
        rw [← Option.not_isSome_iff_eq_none, present]
        simpa using listed
      rw [absent, if_neg listed, Option.map_none]
  rw [lead, Registry.leadKey, enrolled.keys, enrolled.setup, default]

theorem enrolledFresh (distinct : order.Nodup) (valid : ∀ k, some k ∈ order → setup.validateKey k = .ok ()) :
    ({ setup } : State).Admits order ∧ Enrolled setup order (({ setup } : State).enrollAll order) :=
  have ordered : ({ setup } : State).InOrder :=
    ⟨List.Pairwise.nil, fun _ member => (List.not_mem_nil member).elim, fun _ found => by cases found⟩
  enrolledAll ⟨rfl, rfl, rfl, rfl, rfl, ordered⟩ distinct valid

theorem Enrolled.leadsFirst {key : Bytes} (enrolled : Enrolled setup (some key :: order) s) {p : Bytes}
    (matched : setup.rule.isMatch p key setup.headerSize = true) : s.leads p = some (some key) := by
  rw [enrolled.leads, List.reduceOption_cons_of_some]
  simp only [List.find?_cons, matched, Option.map_some, Option.some_or]

theorem Enrolled.leadsOnly {other : List (Option Bytes)} {t : State} (enrolled : Enrolled setup order s)
    (again : Enrolled setup other t) (perm : order.Perm other) {p : Bytes}
    (only : ∀ a ∈ order.reduceOption, ∀ b ∈ order.reduceOption, setup.rule.isMatch p a setup.headerSize = true →
      setup.rule.isMatch p b setup.headerSize = true → a = b) : s.leads p = t.leads p := by
  have keys : order.reduceOption.Perm other.reduceOption := perm.filterMap id
  have default : none ∈ order ↔ none ∈ other := perm.mem_iff
  simp only [enrolled.leads, again.leads, findOnly keys only, default]

end State

/- What the order of registrations comes to. All orders are admitted, with a listener for each registration; they lead all
prefixes of the size alike exactly if no two keys meet, and that can be read off the keys. -/
structure OrderLaw (mode : MatchMode) (setup : Setup) (registrations : List (Option Bytes)) : Prop where
  admitted : ∀ order, order.Perm registrations →
    ({ setup } : State).Admits order ∧ (({ setup } : State).enrollAll order).listeners.map Listener.key = order
  irrelevant : (∀ one other, one.Perm registrations → other.Perm registrations →
      ∀ p : Bytes, p.length = setup.headerSize →
        (({ setup } : State).enrollAll one).leads p = (({ setup } : State).enrollAll other).leads p) ↔
    ∀ a ∈ registrations.reduceOption, ∀ b ∈ registrations.reduceOption, a ≠ b → ¬ mode.Meet setup.headerSize a b
  told : (∀ a ∈ registrations.reduceOption, ∀ b ∈ registrations.reduceOption, a ≠ b →
      ¬ mode.Meet setup.headerSize a b) ↔
    ∀ a ∈ registrations.reduceOption, ∀ b ∈ registrations.reduceOption, a ≠ b → mode.Apart a b

theorem orderLaw {mode : MatchMode} {setup : Setup} {registrations : List (Option Bytes)} (rule : setup.rule = mode.rule)
    (distinct : registrations.Nodup) (valid : ∀ key, some key ∈ registrations → setup.validateKey key = .ok ()) :
    OrderLaw mode setup registrations := by
  have enrolled {order : List (Option Bytes)} (perm : order.Perm registrations) :=
    State.enrolledFresh (perm.nodup_iff.mpr distinct) fun key member => valid key (perm.mem_iff.mp member)
  refine ⟨fun order perm => ⟨(enrolled perm).1, (enrolled perm).2.listeners⟩,
    ⟨fun same a first b second other meet => ?_, fun none one other first second p whole => ?_⟩,
    meetsApart fun key member => ?_⟩
  · obtain ⟨p, whole, matchA, matchB⟩ := meet
    have permA := (List.perm_cons_erase (List.reduceOption_mem_iff.mp first)).symm
    have permB := (List.perm_cons_erase (List.reduceOption_mem_iff.mp second)).symm
    have leadsA := (enrolled permA).2.leadsFirst (p := p) (by rw [rule]; exact matchA)
    have leadsB := (enrolled permB).2.leadsFirst (p := p) (by rw [rule]; exact matchB)
    have equal := leadsA.symm.trans ((same _ _ permA permB p whole).trans leadsB)
    exact other (Option.some.inj (Option.some.inj equal))
  · refine (enrolled first).2.leadsOnly (enrolled second).2 (first.trans second.symm) fun a listedA b listedB => ?_
    rw [rule]
    intro matchA matchB
    by_contra apart
    have inside {key : Bytes} (listed : key ∈ one.reduceOption) : key ∈ registrations.reduceOption :=
      (first.filterMap id).mem_iff.mp listed
    exact none a (inside listedA) b (inside listedB) apart ⟨p, whole, matchA, matchB⟩
  · rcases Setup.keyChecked rule key with ⟨fit, _⟩ | ⟨_, cause, refused⟩
    · exact fit
    · rw [valid key (List.reduceOption_mem_iff.mp member)] at refused
      cases refused

def nestedSetup : Setup := ⟨MatchMode.leading.rule, 4, {}, ⟨.v4 127 0 0 1, 4000⟩⟩

theorem nestedOrders : OrderLaw .leading nestedSetup [some [71, 69], none, some [71, 69, 84, 32], some [80]] ∧
    (({ setup := nestedSetup } : State).enrollAll [some [71, 69], some [71, 69, 84, 32]]).leads [71, 69, 84, 32] =
      some (some [71, 69]) ∧
    (({ setup := nestedSetup } : State).enrollAll [some [71, 69, 84, 32], some [71, 69]]).leads [71, 69, 84, 32] =
      some (some [71, 69, 84, 32]) := by
  refine ⟨orderLaw rfl (by decide) fun key member => ?_, rfl, rfl⟩
  simp only [List.mem_cons, Option.some.injEq, reduceCtorEq, false_or, List.not_mem_nil, or_false] at member
  rcases member with rfl | rfl | rfl <;> rfl

end Selector
end SharedPort
