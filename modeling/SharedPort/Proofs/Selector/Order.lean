import SharedPort.Proofs.Selector.Changes

/-! Where the registry leads a prefix, said without a search, and the order in which it holds its listeners over a run.
-/
namespace SharedPort

def Registry.Leads (r : Registry) (rule : MatchRule) (headerSize : Nat) (p : Bytes) (l : Nat) : Prop :=
  (∃ earlier key later, r.routes = earlier ++ (key, l) :: later ∧ rule.isMatch p key headerSize = true ∧
    ∀ entry ∈ earlier, rule.isMatch p entry.1 headerSize = false) ∨
  (∀ entry ∈ r.routes, rule.isMatch p entry.1 headerSize = false) ∧ r.unmatched = some l

theorem Registry.routeLeads {r : Registry} {rule : MatchRule} {headerSize : Nat} {p : Bytes} {l : Nat} :
    r.route rule headerSize p = some l ↔ r.Leads rule headerSize p l := by
  unfold Registry.route Registry.Leads
  cases hit : r.routes.find? (fun entry => rule.isMatch p entry.1 headerSize) with
  | none =>
    have misses : ∀ entry ∈ r.routes, rule.isMatch p entry.1 headerSize = false := by
      intro entry member
      simpa using List.find?_eq_none.mp hit entry member
    simp only [Option.map_none, Option.none_or]
    constructor
    · exact fun h => .inr ⟨misses, h⟩
    · rintro (⟨earlier, key, later, routes, matched, _⟩ | ⟨_, h⟩)
      · have member : (key, l) ∈ r.routes := by simp [routes]
        rw [misses _ member] at matched
        cases matched
      · exact h
  | some entry =>
    obtain ⟨matched, earlier, later, routes, before⟩ := List.find?_eq_some_iff_append.mp hit
    simp only [Option.map_some, Option.some_or, Option.some.injEq]
    constructor
    · rintro rfl
      exact .inl ⟨earlier, entry.1, later, routes, matched, fun other member => by simpa using before other member⟩
    · rintro (⟨first, key, last, again, hits, misses⟩ | ⟨misses, _⟩)
      · have found : r.routes.find? (fun entry => rule.isMatch p entry.1 headerSize) = some (key, l) :=
          List.find?_eq_some_iff_append.mpr
            ⟨hits, first, last, again, fun other member => by simpa using misses other member⟩
        rw [hit] at found
        exact congrArg Prod.snd (Option.some.inj found)
      · have member : entry ∈ r.routes := by simp [routes]
        rw [misses entry member] at matched
        cases matched

theorem Registry.leadsListener {r : Registry} {rule : MatchRule} {headerSize : Nat} {p : Bytes} {l : Nat}
    (leads : r.Leads rule headerSize p l) : (∃ key, (key, l) ∈ r.routes) ∨ r.unmatched = some l := by
  rcases leads with ⟨earlier, key, later, routes, _, _⟩ | ⟨_, unmatched⟩
  · exact .inl ⟨key, by simp [routes]⟩
  · exact .inr unmatched

namespace Selector.State

/- Listeners are numbered in the order of their registration, so the routes stand in that order, each
with the listener that was made for its key. -/
structure InOrder (s : State) : Prop where
  ascending : (s.registry.routes.map Prod.snd).Pairwise (· < ·)
  keyed : ∀ entry ∈ s.registry.routes, ∃ L, s.listeners[entry.2]? = some L ∧ L.key = some entry.1
  unkeyed : ∀ l, s.registry.unmatched = some l → ∃ L, s.listeners[l]? = some L ∧ L.key = none

theorem Kept.withKey {s t : State} (kept : Kept s t) {l : Nat} {key : Option Bytes}
    (found : ∃ L, s.listeners[l]? = some L ∧ L.key = key) : ∃ L, t.listeners[l]? = some L ∧ L.key = key := by
  obtain ⟨L, present, rfl⟩ := found
  obtain ⟨M, next, goes⟩ := kept l L present
  exact ⟨M, next, goes.key⟩

theorem inOrderShrink {s t : State} (order : InOrder s) (kept : Kept s t)
    (fewer : t.registry.routes.Sublist s.registry.routes)
    (unmatched : ∀ l, t.registry.unmatched = some l → s.registry.unmatched = some l) : InOrder t :=
  ⟨order.ascending.sublist (fewer.map Prod.snd),
    fun entry member => kept.withKey (order.keyed entry (fewer.subset member)),
    fun l h => kept.withKey (order.unkeyed l (unmatched l h))⟩

theorem inOrderAdd {s t : State} {key : Bytes} (order : InOrder s) (kept : Kept s t)
    (registry : t.registry = { s.registry with routes := s.registry.routes ++ [(key, s.listeners.length)] })
    (listeners : t.listeners = s.listeners ++ [s.newListener (some key)]) : InOrder t := by
  have below : ∀ l ∈ s.registry.routes.map Prod.snd, l < s.listeners.length := by
    intro l member
    obtain ⟨entry, present, rfl⟩ := List.mem_map.mp member
    obtain ⟨L, found, _⟩ := order.keyed entry present
    exact (List.getElem?_eq_some_iff.mp found).1
  refine ⟨?_, fun entry member => ?_, fun l h => ?_⟩
  · rw [registry, List.map_append, List.pairwise_append]
    refine ⟨order.ascending, List.pairwise_singleton _ _, fun l member last present => ?_⟩
    obtain rfl := List.mem_singleton.mp present
    exact below l member
  · rw [registry] at member
    rcases List.mem_append.mp member with old | new
    · exact kept.withKey (order.keyed entry old)
    · obtain rfl := List.mem_singleton.mp new
      exact ⟨_, by rw [listeners]; exact List.getElem?_concat_length, rfl⟩
  · rw [registry] at h
    exact kept.withKey (order.unkeyed l h)

theorem inOrderAddDefault {s t : State} (order : InOrder s) (kept : Kept s t)
    (registry : t.registry = { s.registry with unmatched := some s.listeners.length })
    (listeners : t.listeners = s.listeners ++ [s.newListener none]) : InOrder t := by
  refine ⟨?_, fun entry member => ?_, fun l h => ?_⟩
  · rw [registry]
    exact order.ascending
  · rw [registry] at member
    exact kept.withKey (order.keyed entry member)
  · rw [registry] at h
    obtain rfl := Option.some.inj h
    exact ⟨_, by rw [listeners]; exact List.getElem?_concat_length, rfl⟩

theorem inOrderApply {s : State} (order : InOrder s) (e : Event) : InOrder (s.apply e) := by
  have kept := (change s e).kept
  cases (change s e).registry with
  | same registry =>
    refine inOrderShrink order kept (registry ▸ List.Sublist.refl _) (fun l h => ?_)
    rw [← registry, h]
  | added _ _ _ registry listeners => exact inOrderAdd order kept registry listeners
  | addedDefault _ _ _ registry listeners => exact inOrderAddDefault order kept registry listeners
  | removed _ registry =>
    refine inOrderShrink order kept (by rw [registry]; exact List.eraseP_sublist) (fun l h => ?_)
    rw [registry] at h
    exact h
  | removedDefault _ registry =>
    refine inOrderShrink order kept (registry ▸ List.Sublist.refl _) (fun l h => ?_)
    rw [registry] at h
    cases h
  | drained registry =>
    refine inOrderShrink order kept (by rw [registry]; exact List.nil_sublist _) (fun l h => ?_)
    rw [registry] at h
    cases h

theorem inOrderRun {s : State} (order : InOrder s) (events : List Event) : InOrder (s.run events) := by
  induction events generalizing s with
  | nil => exact order
  | cons e rest ih => exact ih (inOrderApply order e)

theorem created {setup : Setup} {s : State} (made : create setup = .ok s) :
    s = { setup } ∧ 0 < setup.headerSize ∧ setup.headerSize ≤ maxHeaderSize := by
  unfold create checkHeaderSize at made
  by_cases valid : Config.validHeaderSize setup.headerSize
  · rw [if_pos valid] at made
    cases made
    simpa [Config.validHeaderSize] using valid
  · rw [if_neg valid] at made
    cases made

theorem inOrderCreated {setup : Setup} {s : State} (made : create setup = .ok s) : InOrder s := by
  obtain ⟨rfl, _⟩ := created made
  exact ⟨List.Pairwise.nil, fun _ member => (List.not_mem_nil member).elim, fun _ h => by cases h⟩

end Selector.State
end SharedPort
