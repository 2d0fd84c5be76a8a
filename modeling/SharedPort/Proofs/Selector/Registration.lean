import Mathlib.Data.List.Nodup
import SharedPort.Proofs.Selector.Queues
import SharedPort.Registry

/-! The moves of the registry: a registration adds a listener at the end, everything else leaves the registry alone or
takes something out of it. Each operation says by its result whether the key was there, and a failing one has nothing to
give. Events of workers and accept calls leave the registry alone. -/
namespace SharedPort.Registry
variable {r s : Registry} {key : Bytes} {l : Nat}

theorem notContains : r.contains key = false ↔ key ∉ r.keys := by
  rw [← containsKey, Bool.not_eq_true]

theorem removeOk (removed : r.remove key = .ok (l, s)) :
    (key, l) ∈ r.routes ∧ s = { r with routes := r.routes.eraseP (·.1 == key) } := by
  unfold remove at removed
  split at removed
  · cases removed
  · rename_i name listener found
    cases removed
    have same : name = key := by simpa using List.find?_some found
    exact ⟨same ▸ List.mem_of_find?_eq_some found, rfl⟩

theorem removeUnknown : r.remove key = .error (.unknownKey (Utf8.decodeLossy key)) ↔ key ∉ r.keys := by
  unfold remove
  split
  · rename_i none
    simp only [true_iff]
    intro member
    obtain ⟨entry, present, same⟩ := List.mem_map.mp member
    simpa [same] using List.find?_eq_none.mp none entry present
  · rename_i name listener found
    have same : name = key := by simpa using List.find?_some found
    have member : key ∈ r.keys := List.mem_map.mpr ⟨_, List.mem_of_find?_eq_some found, same⟩
    simp [member]

theorem removePresent (present : key ∈ r.keys) : ∃ l s, r.remove key = .ok (l, s) := by
  cases found : r.routes.find? (·.1 == key) with
  | none => exact absurd present (removeUnknown.mp (by simp [remove, found]))
  | some entry => exact ⟨entry.2, _, by simp only [remove, found]; rfl⟩

theorem removeListener (removed : r.remove key = .ok (l, s)) : l ∈ r.listeners :=
  List.mem_append_left _ (List.mem_map.mpr ⟨_, (removeOk removed).1, rfl⟩)

theorem takeListener (taken : r.takeDefault = (some l, s)) : l ∈ r.listeners := by
  have unmatched : r.unmatched = some l := congrArg Prod.fst taken
  simp [listeners, unmatched]

theorem keysErase (once : r.keys.Nodup) :
    { r with routes := r.routes.eraseP (·.1 == key) : Registry }.keys = r.keys.filter (· != key) := by
  rw [← once.erase_eq_filter, List.erase_eq_eraseP', keys, keys, List.eraseP_map]
  rfl

end SharedPort.Registry

namespace SharedPort.Selector.State
open SharedPort.Stream (Attempt Replay)

inductive RegistryMove (s : State) (e : Event) (t : State) : Prop where
  | same (registry : t.registry = s.registry) (listeners : t.listeners.length = s.listeners.length)
  | added {key : Bytes} (event : e = .register key) (isOpen : s.closed = false) (fresh : key ∉ s.registry.keys)
      (registry : t.registry = { s.registry with routes := s.registry.routes ++ [(key, s.listeners.length)] })
      (listeners : t.listeners = s.listeners ++ [s.newListener (some key)])
  | addedDefault (event : e = .registerDefault) (isOpen : s.closed = false) (free : s.registry.unmatched = none)
      (registry : t.registry = { s.registry with unmatched := some s.listeners.length })
      (listeners : t.listeners = s.listeners ++ [s.newListener none])
  | removed {key : Bytes} (event : e = .unregister key)
      (registry : t.registry = { s.registry with routes := s.registry.routes.eraseP (·.1 == key) })
      (listeners : t.listeners = s.listeners)
  | removedDefault (event : e = .unregisterDefault) (registry : t.registry = { s.registry with unmatched := none })
      (listeners : t.listeners = s.listeners)
  | drained (registry : t.registry = {}) (listeners : t.listeners.length = s.listeners.length)

theorem registryRegister (s : State) (key : Bytes) : RegistryMove s (.register key) (s.register key).2 := by
  unfold register
  cases s.setup.validateKey key with
  | error e => exact .same rfl rfl
  | ok _ =>
    cases isOpen : s.closed with
    | true => exact .same rfl rfl
    | false =>
      by_cases present : key ∈ s.registry.keys
      · simp only [bind, Except.bind, Registry.insertPresent _ present, Bool.false_eq_true, if_false]
        exact .same rfl rfl
      · have absent : s.registry.contains key = false :=
          Bool.eq_false_iff.mpr fun h => present (Registry.containsKey.mp h)
        simp only [bind, Except.bind, Registry.insert, absent, Bool.false_eq_true, if_false]
        exact .added rfl isOpen present rfl rfl

theorem registryRegisterDefault (s : State) : RegistryMove s .registerDefault s.registerDefault.2 := by
  unfold registerDefault
  cases isOpen : s.closed with
  | true => exact .same rfl rfl
  | false =>
    cases free : s.registry.unmatched with
    | some l =>
      simp only [Registry.setDefault, free, Bool.false_eq_true, if_false, Option.isSome_some, if_true]
      exact .same rfl rfl
    | none =>
      simp only [Registry.setDefault, free, Bool.false_eq_true, if_false, Option.isSome_none]
      exact .addedDefault rfl isOpen free rfl rfl

theorem registryUnregister (s : State) (key : Bytes) : RegistryMove s (.unregister key) (s.unregister key).2 := by
  unfold unregister Registry.remove
  split
  · exact .same rfl rfl
  · rename_i found
    split at found
    · cases found
    · cases found
      exact .removed rfl rfl rfl

theorem registryUnregisterDefault (s : State) :
    RegistryMove s .unregisterDefault s.unregisterDefault.2 := by
  unfold unregisterDefault Registry.takeDefault
  split
  · exact .same rfl rfl
  · rename_i taken
    obtain ⟨_, rfl⟩ := Prod.mk.inj taken
    exact .removedDefault rfl rfl rfl

theorem lengthCloseQueue (s : State) (i : Nat) : (s.closeQueue i).2.listeners.length = s.listeners.length := by
  unfold closeQueue
  split
  · rfl
  · exact List.length_modify _ _ _

theorem registryCloseQueue (s : State) (i : Nat) : (s.closeQueue i).2.registry = s.registry := by
  unfold closeQueue
  split <;> rfl

theorem registryCloseAdvance (s : State) (e : Event) (stage : CloseStage) :
    RegistryMove s e (s.closeAdvance stage).2 := by
  cases stage with
  | swapping => unfold closeAdvance; dsimp only; split <;> exact .same rfl rfl
  | taking => unfold closeAdvance; dsimp only; split <;> exact .same rfl rfl
  | closing left =>
    cases left with
    | nil => exact .same rfl rfl
    | cons l left => exact .same (registryCloseQueue s l) (lengthCloseQueue s l)
  | ringing l left => exact .same rfl (List.length_modify _ _ _)
  | draining => exact .drained rfl rfl
  | signalling | closingSource | returned => exact .same rfl rfl

theorem registryListenerCloseStep (s : State) (e : Event) (i : Nat) :
    RegistryMove s e (s.listenerCloseStep i) := by
  unfold listenerCloseStep
  split
  · rename_i l _
    exact .same (registryCloseQueue s l) (lengthCloseQueue s l)
  · exact .same rfl (List.length_modify _ _ _)
  · exact .same rfl rfl

/- A move does not depend on fields beside the registry and the listeners. -/
theorem RegistryMove.congr {s t u : State} {e : Event} (move : RegistryMove s e t)
    (registry : u.registry = t.registry) (listeners : u.listeners = t.listeners) : RegistryMove s e u := by
  cases move with
  | same r l => exact .same (registry.trans r) (by rw [listeners, l])
  | added event isOpen fresh r l => exact .added event isOpen fresh (registry.trans r) (listeners.trans l)
  | addedDefault event isOpen free r l => exact .addedDefault event isOpen free (registry.trans r) (listeners.trans l)
  | removed event r l => exact .removed event (registry.trans r) (listeners.trans l)
  | removedDefault event r l => exact .removedDefault event (registry.trans r) (listeners.trans l)
  | drained r l => exact .drained (registry.trans r) (by rw [listeners, l])

theorem registryServeStep (s : State) (e : Event) (i : Nat) : RegistryMove s e (s.serveStep i) := by
  unfold serveStep
  split
  · split <;> exact .same rfl rfl
  · exact .same rfl rfl
  · exact .same rfl rfl
  · split <;> exact .same rfl rfl
  · split <;> exact .same rfl rfl
  · exact .same rfl rfl
  · exact .same rfl rfl
  · exact (registryCloseAdvance s e _).congr rfl rfl
  · dsimp only
    split <;> exact .same rfl rfl
  · exact .same rfl rfl

theorem registryCloseStep (s : State) (e : Event) (i : Nat) : RegistryMove s e (s.closeStep i) := by
  unfold closeStep
  split
  · exact .same rfl rfl
  · exact (registryCloseAdvance s e _).congr rfl rfl

theorem registryAcceptFailed (s : State) (e : Event) (i : Nat) (cause : Error) :
    RegistryMove s e (s.acceptFailed i cause) := by
  unfold acceptFailed
  split
  · split <;> exact .same rfl rfl
  · exact .same rfl rfl

theorem registryCancelServe (s : State) (e : Event) (i : Nat) : RegistryMove s e (s.cancelServe i) := by
  unfold cancelServe
  split <;> exact .same rfl rfl

theorem registryWorkerStep (s : State) (e : Event) (i : Nat) : RegistryMove s e (s.workerStep i) := by
  unfold workerStep
  split
  · split <;> exact .same rfl rfl
  · unfold deliver
    split
    · exact .same rfl rfl
    · split
      · exact .same rfl (List.length_modify _ _ _)
      · exact .same rfl rfl
  · exact .same rfl (List.length_modify _ _ _)
  · exact .same rfl rfl

theorem registryAcceptStep (s : State) (e : Event) (call : Nat) : RegistryMove s e (s.acceptStep call) := by
  unfold acceptStep
  split
  · exact .same rfl (List.length_modify _ _ _)
  · exact .same rfl (List.length_modify _ _ _)
  · split
    · exact .same rfl rfl
    · split
      · exact .same rfl (List.length_modify _ _ _)
      · exact .same rfl rfl
      · exact .same rfl rfl
  · exact .same rfl (List.length_modify _ _ _)
  · split
    · exact .same rfl (List.length_modify _ _ _)
    · exact .same rfl rfl
  · exact .same rfl rfl

theorem registryCancelAccept (s : State) (e : Event) (call : Nat) : RegistryMove s e (s.cancelAccept call) := by
  unfold cancelAccept
  split
  · exact .same rfl rfl
  · exact .same rfl (List.length_modify _ _ _)
  · exact .same rfl rfl

theorem keptOfListeners {s t : State} (same : t.listeners = s.listeners) : Kept s t :=
  fun _ L found => ⟨L, by rw [same, found], Continues.refl L⟩

theorem keptDeliver (s : State) (i : Nat) (arrival : Arrival) (header : Bytes) (l : Nat) :
    Kept s (s.deliver i arrival header l) := by
  unfold deliver
  cases target : s.listeners[l]? with
  | none => exact keptOfListeners rfl
  | some L =>
    simp only [Listener.Queue.push]
    by_cases closed : L.queue.closed
    · rw [if_pos closed]; exact keptOfListeners rfl
    · rw [if_neg closed]
      by_cases full : L.queue.isFull L.capacity
      · rw [if_pos full]; exact keptOfListeners rfl
      · rw [if_neg full]; exact keptSetQueue target id

theorem keptWorkerStep (s : State) (i : Nat) : Kept s (s.workerStep i) := by
  unfold workerStep
  split
  · split <;> exact keptOfListeners rfl
  · exact keptDeliver s i _ _ _
  · rename_i l _
    exact keptSetBell s l Listener.Bell.ringOne
  · exact Kept.refl s

theorem keptAcceptStep (s : State) (call : Nat) : Kept s (s.acceptStep call) := by
  cases present : s.accepts[call]? with
  | none => simp only [acceptStep, present]; exact Kept.refl s
  | some a =>
    obtain ⟨l, stage⟩ := a
    cases stage with
    | begun | entering => simp only [acceptStep, present]; exact keptSetBell s l (Listener.Bell.take call)
    | leaving => simp only [acceptStep, present]; exact keptSetBell s l (Listener.Bell.leave call)
    | sleeping =>
      simp only [acceptStep, present]
      split
      · exact keptSetBell s l (Listener.Bell.pass call)
      · exact Kept.refl s
    | returned | cancelled => simp only [acceptStep, present]; exact Kept.refl s
    | looking =>
      simp only [acceptStep, present]
      cases target : s.listeners[l]? with
      | none => exact Kept.refl s
      | some L =>
        simp only [Listener.Queue.pop]
        cases items : L.queue.items with
        | nil => by_cases closed : L.queue.closed <;> simp only [closed] <;> exact Kept.refl s
        | cons routed rest => exact keptSetQueue target id

theorem keptCancelAccept (s : State) (call : Nat) : Kept s (s.cancelAccept call) := by
  unfold cancelAccept
  split
  · exact Kept.refl s
  · rename_i l _
    exact keptSetBell s l (Listener.Bell.leave call)
  · exact Kept.refl s

end SharedPort.Selector.State
