import SharedPort.Proofs.Selector.Blocks
import SharedPort.Proofs.Selector.Fifo

/-! The registry told from its calls alone. Each call that had an effect leaves an entry in a ledger; which keys are
live, in which order, and what every later call answers, follows from the ledger. -/
namespace SharedPort.Selector

inductive Booking
  | registered (key : Bytes)
  | registeredDefault
  | unregistered (key : Bytes)
  | unregisteredDefault
  | closed
  deriving DecidableEq, Repr

namespace Booking

def undoneBy : Booking → Booking → Bool
  | .registered key, .unregistered other => key = other
  | .registeredDefault, .unregisteredDefault => true
  | _, .closed => true
  | _, _ => false

def key? : Booking → Option Bytes
  | .registered key => some key
  | _ => none

end Booking

/- The entries that nothing later has undone. -/
def standing : List Booking → List Booking
  | [] => []
  | entry :: later => if later.any entry.undoneBy then standing later else entry :: standing later

def liveKeys (log : List Booking) : List Bytes := (standing log).filterMap Booking.key?

theorem standingSnoc (log : List Booking) (last : Booking) :
    standing (log ++ [last]) = (standing log).filter (fun entry => !entry.undoneBy last) ++ [last] := by
  induction log with
  | nil => simp [standing]
  | cons entry later ih =>
    simp only [List.cons_append, standing, List.any_append, List.any_cons, List.any_nil, Bool.or_false, ih]
    by_cases already : later.any entry.undoneBy = true
    · simp only [already, Bool.true_or, if_true]
    · cases undone : entry.undoneBy last <;> simp [already, undone]

section Snoc
variable (log : List Booking)

theorem liveKeysSnoc (last : Booking) : liveKeys (log ++ [last]) =
    (standing log).filterMap (fun entry => if entry.undoneBy last then none else entry.key?) ++ last.key?.toList := by
  rw [liveKeys, standingSnoc, List.filterMap_append, List.filterMap_filter]
  congr 1
  · congr 1
    funext entry
    cases entry.undoneBy last <;> rfl

theorem liveKeysRegistered (key : Bytes) : liveKeys (log ++ [.registered key]) = liveKeys log ++ [key] := by
  have untouched (entry : Booking) : entry.undoneBy (.registered key) = false := by cases entry <;> rfl
  rw [liveKeysSnoc]
  simp only [untouched, Bool.false_eq_true, if_false]
  rfl

theorem liveKeysUnregistered (key : Bytes) :
    liveKeys (log ++ [.unregistered key]) = (liveKeys log).filter (· != key) := by
  have untouched (entry : Booking) : (if entry.undoneBy (.unregistered key) then none else entry.key?) =
      entry.key?.filter (· != key) := by
    cases entry with
    | registered other => by_cases same : other = key <;> simp [Booking.undoneBy, Booking.key?, Option.filter, same]
    | registeredDefault | unregistered | unregisteredDefault | closed => rfl
  rw [liveKeysSnoc, liveKeys, List.filter_filterMap]
  simp only [untouched]
  exact List.append_nil _

theorem liveKeysAside {last : Booking} (about : last = .registeredDefault ∨ last = .unregisteredDefault) :
    liveKeys (log ++ [last]) = liveKeys log := by
  have untouched (entry : Booking) : (if entry.undoneBy last then none else entry.key?) = entry.key? := by
    rcases about with rfl | rfl <;> cases entry <;> rfl
  have keyless : last.key? = none := by rcases about with rfl | rfl <;> rfl
  rw [liveKeysSnoc, keyless]
  simp only [untouched]
  exact List.append_nil _

theorem liveKeysClosed : liveKeys (log ++ [.closed]) = [] := by
  have undone (entry : Booking) : entry.undoneBy .closed = true := by cases entry <;> rfl
  rw [liveKeysSnoc]
  simp [undone, Booking.key?]

theorem defaultStands (last : Booking) : .registeredDefault ∈ standing (log ++ [last]) ↔
    .registeredDefault ∈ standing log ∧ last ≠ .unregisteredDefault ∧ last ≠ .closed ∨ last = .registeredDefault := by
  rw [standingSnoc, List.mem_append, List.mem_filter, List.mem_singleton, eq_comm (a := Booking.registeredDefault)]
  cases last <;> simp [Booking.undoneBy]

end Snoc

structure Books (log : List Booking) (r : Registry) : Prop where
  keys : r.keys = liveKeys log
  once : r.keys.Nodup
  unmatched : r.unmatched.isSome = true ↔ .registeredDefault ∈ standing log

section Books
variable {log : List Booking} {r : Registry} (books : Books log r)
include books

theorem booksRegistered {key : Bytes} (l : Nat) (fresh : key ∉ r.keys) :
    Books (log ++ [.registered key]) { r with routes := r.routes ++ [(key, l)] } := by
  have keys : { r with routes := r.routes ++ [(key, l)] : Registry }.keys = r.keys ++ [key] := List.map_append
  refine ⟨?_, ?_, ?_⟩
  · rw [keys, books.keys, liveKeysRegistered]
  · rw [keys]
    refine List.nodup_append.mpr ⟨books.once, List.nodup_singleton key, fun other present last member same => ?_⟩
    exact fresh (List.mem_singleton.mp member ▸ same ▸ present)
  · simpa [defaultStands] using books.unmatched

theorem booksDefault (l : Nat) : Books (log ++ [.registeredDefault]) { r with unmatched := some l } :=
  ⟨books.keys.trans (liveKeysAside log (.inl rfl)).symm, books.once, by simp [defaultStands]⟩

theorem booksUnregistered (key : Bytes) :
    Books (log ++ [.unregistered key]) { r with routes := r.routes.eraseP (·.1 == key) } := by
  have keys := @Registry.keysErase r key books.once
  refine ⟨?_, ?_, ?_⟩
  · rw [keys, books.keys, liveKeysUnregistered]
  · rw [keys]
    exact books.once.filter _
  · simpa [defaultStands] using books.unmatched

theorem booksUnregisteredDefault : Books (log ++ [.unregisteredDefault]) { r with unmatched := none } :=
  ⟨books.keys.trans (liveKeysAside log (.inr rfl)).symm, books.once, by simp [defaultStands]⟩

end Books

theorem booksClosed (log : List Booking) : Books (log ++ [.closed]) {} :=
  ⟨(liveKeysClosed log).symm, List.nodup_nil, by simp [defaultStands]⟩

namespace State

def booking (s : State) : Call → Option Booking
  | .register key => if (s.register key).1.isOk then some (.registered key) else none
  | .registerDefault => if s.registerDefault.1.isOk then some .registeredDefault else none
  | .unregister key => if (s.unregister key).1.isOk then some (.unregistered key) else none
  | .unregisterDefault => if s.unregisterDefault.1 then some .unregisteredDefault else none
  | .close => some .closed

/- A call as a whole either has changed nothing at all, or has done what its entry says. -/
inductive Performs (s t : State) : Call → Option Booking → Prop where
  | refused {c} (same : t = s) (removes : s.removedBy c = []) : Performs s t c none
  | registered {key} (isOpen : s.closed = false) (fresh : key ∉ s.registry.keys)
      (leaves : Leaves s t { s.registry with routes := s.registry.routes ++ [(key, s.listeners.length)] } s.closed []) :
      Performs s t (.register key) (some (.registered key))
  | registeredDefault (isOpen : s.closed = false) (free : s.registry.unmatched = none)
      (leaves : Leaves s t { s.registry with unmatched := some s.listeners.length } s.closed []) :
      Performs s t .registerDefault (some .registeredDefault)
  | unregistered {key l} (found : s.removedBy (.unregister key) = [l])
      (leaves : Leaves s t { s.registry with routes := s.registry.routes.eraseP (·.1 == key) } s.closed [l]) :
      Performs s t (.unregister key) (some (.unregistered key))
  | unregisteredDefault {l} (found : s.removedBy .unregisterDefault = [l])
      (leaves : Leaves s t { s.registry with unmatched := none } s.closed [l]) :
      Performs s t .unregisterDefault (some .unregisteredDefault)
  | closed (leaves : Leaves s t {} true s.registry.listeners) : Performs s t .close (some .closed)

theorem performsRegister (s : State) (key : Bytes) :
    Performs s (s.perform (.register key)) (.register key) (s.booking (.register key)) := by
  change Performs s (s.register key).2 _ (if (s.register key).1.isOk then _ else _)
  rw [registerAnswers]
  cases s.setup.validateKey key with
  | error e => exact .refused rfl rfl
  | ok =>
    by_cases isClosed : s.closed = true
    · simp only [if_pos isClosed]
      exact .refused rfl rfl
    · by_cases present : key ∈ s.registry.keys
      · simp only [if_neg isClosed, if_pos present]
        exact .refused rfl rfl
      · simp only [if_neg isClosed, if_neg present]
        exact .registered (Bool.eq_false_iff.mpr isClosed) present (leavesOpen (shutAppend s _ _) rfl rfl rfl)

theorem performsRegisterDefault (s : State) :
    Performs s (s.perform .registerDefault) .registerDefault (s.booking .registerDefault) := by
  change Performs s s.registerDefault.2 _ (if s.registerDefault.1.isOk then _ else _)
  rw [registerDefaultAnswers]
  by_cases isClosed : s.closed = true
  · simp only [if_pos isClosed]
    exact .refused rfl rfl
  · cases free : s.registry.unmatched with
    | some l =>
      simp only [if_neg isClosed]
      exact .refused rfl rfl
    | none =>
      simp only [if_neg isClosed]
      exact .registeredDefault (Bool.eq_false_iff.mpr isClosed) free (leavesOpen (shutAppend s _ _) rfl rfl rfl)

theorem restSteps (s : State) (n : Nat) :
    s.run (List.replicate n (.listenerCloseStep s.listenerCloses.length)) = s := by
  induction n with
  | zero => rfl
  | succ n ih =>
    have absent : s.listenerCloses[s.listenerCloses.length]? = none := List.getElem?_eq_none (Nat.le_refl _)
    have still : s.apply (.listenerCloseStep s.listenerCloses.length) = s := by
      simp only [apply, listenerCloseStep, absent]
    rw [List.replicate_succ]
    exact (congrArg (run · _) still).trans ih

theorem leavesRemoved (s : State) (registry : Registry) (l : Nat) :
    Leaves s (({ s with registry }.beginListenerClose l).run
      (List.replicate 2 (.listenerCloseStep s.listenerCloses.length))) registry s.closed [l] := by
  have leaves := leavesListener { s with registry } l
  exact ⟨leaves.registry, leaves.closed, leaves.shut, leaves.closes, leaves.each⟩

theorem performsUnregister (s : State) (key : Bytes) :
    Performs s (s.perform (.unregister key)) (.unregister key) (s.booking (.unregister key)) := by
  change Performs s ((s.unregister key).2.run (List.replicate 2 (.listenerCloseStep s.listenerCloses.length))) _
    (if (s.unregister key).1.isOk then _ else _)
  unfold unregister Registry.remove
  cases found : s.registry.routes.find? (·.1 == key) with
  | none => exact .refused (restSteps s 2) (by simp [removedBy, found])
  | some entry =>
    exact .unregistered (l := entry.2) (by simp [removedBy, found]) (leavesRemoved s _ entry.2)

theorem performsUnregisterDefault (s : State) :
    Performs s (s.perform .unregisterDefault) .unregisterDefault (s.booking .unregisterDefault) := by
  change Performs s (s.unregisterDefault.2.run (List.replicate 2 (.listenerCloseStep s.listenerCloses.length))) _
    (if s.unregisterDefault.1 then _ else _)
  unfold unregisterDefault Registry.takeDefault
  cases found : s.registry.unmatched with
  | none => exact .refused (restSteps s 2) (by simp [removedBy, found])
  | some l =>
    exact .unregisteredDefault (l := l) (by simp [removedBy, found]) (leavesRemoved s _ l)

theorem performs {s : State} (empty : s.closed = true → s.registry = {}) (c : Call) :
    Performs s (s.perform c) c (s.booking c) := by
  cases c with
  | register key => exact performsRegister s key
  | registerDefault => exact performsRegisterDefault s
  | unregister key => exact performsUnregister s key
  | unregisterDefault => exact performsUnregisterDefault s
  | close =>
    cases isClosed : s.closed with
    | false => exact .closed (leavesClose isClosed)
    | true =>
      have leaves := leavesCloseAgain isClosed
      have nobody : s.registry.listeners = [] := congrArg Registry.listeners (empty isClosed)
      rw [empty isClosed, ← nobody] at leaves
      exact .closed leaves

structure Booked (log : List Booking) (s : State) : Prop where
  books : Books log s.registry
  closed : s.closed = true ↔ .closed ∈ log
  empty : s.closed = true → s.registry = {}

theorem bookedPerforms {log : List Booking} {s t : State} {c : Call} {booking : Option Booking} (booked : Booked log s)
    (performs : Performs s t c booking) : Booked (log ++ booking.toList) t := by
  have stays {closed : Bool} {last : Booking} (same : closed = s.closed) (other : last ≠ .closed) :
      closed = true ↔ .closed ∈ log ++ [last] := by
    rw [same, booked.closed, List.mem_append, List.mem_singleton]
    exact ⟨.inl, fun | .inl there => there | .inr last => absurd last.symm other⟩
  cases performs with
  | refused same =>
    rw [same, Option.toList_none, List.append_nil]
    exact booked
  | registered isOpen fresh leaves =>
    refine ⟨leaves.registry ▸ booksRegistered booked.books _ fresh, stays leaves.closed nofun, fun closed => ?_⟩
    rw [leaves.closed, isOpen] at closed
    cases closed
  | registeredDefault isOpen free leaves =>
    refine ⟨leaves.registry ▸ booksDefault booked.books _, stays leaves.closed nofun, fun closed => ?_⟩
    rw [leaves.closed, isOpen] at closed
    cases closed
  | @unregistered key l found leaves =>
    refine ⟨leaves.registry ▸ booksUnregistered booked.books key, stays leaves.closed nofun, fun closed => ?_⟩
    rw [leaves.registry, booked.empty (leaves.closed ▸ closed)]
    rfl
  | unregisteredDefault found leaves =>
    refine ⟨leaves.registry ▸ booksUnregisteredDefault booked.books, stays leaves.closed nofun, fun closed => ?_⟩
    rw [leaves.registry, booked.empty (leaves.closed ▸ closed)]
  | closed leaves =>
    exact ⟨leaves.registry ▸ booksClosed log, by simp [leaves.closed], fun _ => leaves.registry⟩

end State
end SharedPort.Selector
