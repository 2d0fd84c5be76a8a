import Mathlib.Data.List.Nodup
import SharedPort.Proofs.Selector.Routing

/-! Where the connections of a selector are: with a worker, in a slot of a queue, with the accept call that took one, or
dropped. The places of a state are listed, and each event moves what is in them by one step at most. -/
namespace SharedPort.Selector

def Routed.arrival (routed : Routed) : Arrival := ⟨routed.stream.inner, routed.peer⟩

inductive Place
  | worker (i : Nat)
  | slot (listener k : Nat)
  | call (listener i : Nat)
  | dropped (i : Nat)
  deriving DecidableEq

def Place.number : Place → Nat
  | .worker i | .call _ i | .dropped i => i
  | .slot l _ => l

def Place.isFinal : Place → Bool
  | .call .. | .dropped _ => true
  | .worker _ | .slot .. => false

def WorkerStage.place (i : Nat) : WorkerStage → Option Place
  | .peeking .. | .peeked _ | .found .. => some (.worker i)
  | .ringing _ | .settled (.queued _) => none
  | .settled _ => some (.dropped i)

def AcceptStage.taken : AcceptStage → Option Routed
  | .leaving (.ok routed) | .returned (.ok routed) => some routed
  | _ => none

/- One step that a connection may make from place to place. -/
inductive Passes : Place → Place → Prop where
  | stays {p} : Passes p p
  | drops {i} : Passes (.worker i) (.dropped i)
  | queues {i l k} : Passes (.worker i) (.slot l k)
  | advances {l k} : Passes (.slot l (k + 1)) (.slot l k)
  | leaves {l i} : Passes (.slot l 0) (.call l i)

namespace State

def returned : State → List Event → List Arrival
  | _, [] => []
  | s, e :: rest => (s.joins e).map Worker.arrival ++ returned (s.apply e) rest

def Holds (s : State) (c : Arrival) : Place → Prop
  | .worker i => ∃ w, s.workers[i]? = some w ∧ w.arrival = c ∧ w.stage.place i = some (.worker i)
  | .slot l k => ∃ routed, (s.waiting l)[k]? = some routed ∧ routed.arrival = c
  | .call l i => ∃ stage routed, s.accepts[i]? = some ⟨l, stage⟩ ∧ stage.taken = some routed ∧ routed.arrival = c
  | .dropped i => ∃ w, s.workers[i]? = some w ∧ w.arrival = c ∧ w.stage.place i = some (.dropped i)

def atWorker (s : State) (i : Nat) : List (Place × Arrival) :=
  ((s.workers[i]?).bind fun w => (w.stage.place i).map fun p => (p, w.arrival)).toList

def atListener (s : State) (l : Nat) : List (Place × Arrival) :=
  (s.waiting l).mapIdx fun k routed => (.slot l k, routed.arrival)

def atCall (s : State) (i : Nat) : List (Place × Arrival) :=
  ((s.accepts[i]?).bind fun a => a.stage.taken.map fun routed => (.call a.listener i, routed.arrival)).toList

def size (s : State) : Nat := s.workers.length + s.listeners.length + s.accepts.length

def places (s : State) : List (Place × Arrival) :=
  (List.range s.size).flatMap fun n => s.atWorker n ++ (s.atListener n ++ s.atCall n)

theorem placedWorker {s : State} {n : Nat} {p : Place} {c : Arrival} : (p, c) ∈ s.atWorker n ↔
    ∃ w, s.workers[n]? = some w ∧ w.stage.place n = some p ∧ w.arrival = c := by
  simp only [atWorker, Option.mem_toList, Option.bind_eq_some_iff, Option.map_eq_some_iff, Prod.mk.injEq]
  constructor
  · rintro ⟨w, found, q, place, rfl, rfl⟩
    exact ⟨w, found, place, rfl⟩
  · rintro ⟨w, found, place, rfl⟩
    exact ⟨w, found, p, place, rfl, rfl⟩

theorem placedListener {s : State} {l : Nat} {p : Place} {c : Arrival} : (p, c) ∈ s.atListener l ↔
    ∃ k routed, (s.waiting l)[k]? = some routed ∧ p = .slot l k ∧ routed.arrival = c := by
  simp only [atListener, List.mem_mapIdx, Prod.mk.injEq]
  constructor
  · rintro ⟨k, bound, rfl, rfl⟩
    exact ⟨k, _, List.getElem?_eq_getElem bound, rfl, rfl⟩
  · rintro ⟨k, routed, found, rfl, rfl⟩
    obtain ⟨bound, here⟩ := List.getElem?_eq_some_iff.mp found
    exact ⟨k, bound, rfl, by rw [here]⟩

theorem placedCall {s : State} {n : Nat} {p : Place} {c : Arrival} : (p, c) ∈ s.atCall n ↔
    ∃ l stage routed, s.accepts[n]? = some ⟨l, stage⟩ ∧ stage.taken = some routed ∧ p = .call l n ∧
      routed.arrival = c := by
  simp only [atCall, Option.mem_toList, Option.bind_eq_some_iff, Option.map_eq_some_iff, Prod.mk.injEq]
  constructor
  · rintro ⟨⟨l, stage⟩, found, routed, taken, rfl, rfl⟩
    exact ⟨l, stage, routed, found, taken, rfl, rfl⟩
  · rintro ⟨l, stage, routed, found, taken, rfl, rfl⟩
    exact ⟨⟨l, stage⟩, found, routed, taken, rfl, rfl⟩

theorem placeOfWorker {stage : WorkerStage} {i : Nat} {p : Place} (place : stage.place i = some p) :
    p = .worker i ∨ p = .dropped i := by
  cases stage with
  | peeking | peeked | found => exact .inl (Option.some.inj place).symm
  | ringing => cases place
  | settled fate =>
    cases fate with
    | queued => cases place
    | peekFailed | unroutable | rejected | aborted => exact .inr (Option.some.inj place).symm

theorem waitingBounded {s : State} {l k : Nat} {routed : Routed} (found : (s.waiting l)[k]? = some routed) :
    l < s.listeners.length := by
  apply Decidable.byContradiction
  intro beyond
  simp [waiting, List.getElem?_eq_none (Nat.le_of_not_lt beyond)] at found

theorem memPlaces {s : State} {p : Place} {c : Arrival} : (p, c) ∈ s.places ↔ s.Holds c p := by
  have bounded : ∀ {α : Type} {xs : List α} {n : Nat} {x : α}, xs[n]? = some x → n < xs.length :=
    fun found => (List.getElem?_eq_some_iff.mp found).1
  simp only [places, List.mem_flatMap, List.mem_range, List.mem_append, placedWorker, placedListener, placedCall]
  constructor
  · rintro ⟨n, _, ⟨w, found, place, arrival⟩ | ⟨k, routed, found, rfl, arrival⟩ |
      ⟨l, stage, routed, found, taken, rfl, arrival⟩⟩
    · rcases placeOfWorker place with rfl | rfl
      · exact ⟨w, found, arrival, place⟩
      · exact ⟨w, found, arrival, place⟩
    · exact ⟨routed, found, arrival⟩
    · exact ⟨stage, routed, found, taken, arrival⟩
  · intro held
    cases p with
    | worker i | dropped i =>
      obtain ⟨w, found, arrival, place⟩ := held
      have inside := bounded found
      exact ⟨i, by unfold size; omega, .inl ⟨w, found, place, arrival⟩⟩
    | slot l k =>
      obtain ⟨routed, found, arrival⟩ := held
      have inside := waitingBounded found
      exact ⟨l, by unfold size; omega, .inr (.inl ⟨k, routed, found, rfl, arrival⟩)⟩
    | call l i =>
      obtain ⟨stage, routed, found, taken, arrival⟩ := held
      have inside := bounded found
      exact ⟨i, by unfold size; omega, .inr (.inr ⟨l, stage, routed, found, taken, rfl, arrival⟩)⟩

theorem placeAtWorker {s : State} {n : Nat} {p : Place} (member : p ∈ (s.atWorker n).map Prod.fst) :
    p = .worker n ∨ p = .dropped n := by
  obtain ⟨⟨q, c⟩, here, rfl⟩ := List.mem_map.mp member
  obtain ⟨w, _, place, _⟩ := placedWorker.mp here
  exact placeOfWorker place

theorem placeAtListener {s : State} {n : Nat} {p : Place} (member : p ∈ (s.atListener n).map Prod.fst) :
    ∃ k, p = .slot n k := by
  obtain ⟨⟨q, c⟩, here, rfl⟩ := List.mem_map.mp member
  obtain ⟨k, _, _, place, _⟩ := placedListener.mp here
  exact ⟨k, place⟩

theorem placeAtCall {s : State} {n : Nat} {p : Place} (member : p ∈ (s.atCall n).map Prod.fst) :
    ∃ l, p = .call l n := by
  obtain ⟨⟨q, c⟩, here, rfl⟩ := List.mem_map.mp member
  obtain ⟨l, _, _, _, _, place, _⟩ := placedCall.mp here
  exact ⟨l, place⟩

theorem placeNumber {s : State} {n : Nat} {p : Place}
    (member : p ∈ (s.atWorker n ++ (s.atListener n ++ s.atCall n)).map Prod.fst) : p.number = n := by
  simp only [List.map_append, List.mem_append] at member
  rcases member with member | member | member
  · rcases placeAtWorker member with rfl | rfl <;> rfl
  · obtain ⟨k, rfl⟩ := placeAtListener member
    rfl
  · obtain ⟨l, rfl⟩ := placeAtCall member
    rfl

theorem optionNodup {α β : Type} {f : α → β} (x : Option α) : (x.toList.map f).Nodup := by
  cases x with
  | none => exact List.nodup_nil
  | some a => exact List.nodup_singleton (f a)

theorem listenerNodup (s : State) (n : Nat) : ((s.atListener n).map Prod.fst).Nodup := by
  rw [List.Nodup, List.pairwise_iff_getElem]
  intro j k _ _ before same
  simp only [atListener, List.getElem_map, List.getElem_mapIdx, Place.slot.injEq] at same
  omega

theorem placesDistinct (s : State) : (s.places.map Prod.fst).Nodup := by
  rw [places, List.map_flatMap, List.nodup_flatMap]
  refine ⟨fun n _ => ?_, List.nodup_range.imp fun different => ?_⟩
  · simp only [List.map_append, List.nodup_append']
    refine ⟨optionNodup _, ⟨listenerNodup s n, optionNodup _, ?_⟩, ?_⟩
    · intro p first second
      obtain ⟨k, rfl⟩ := placeAtListener first
      obtain ⟨l, same⟩ := placeAtCall second
      cases same
    · intro p first second
      rcases List.mem_append.mp second with second | second
      · obtain ⟨k, rfl⟩ := placeAtListener second
        rcases placeAtWorker first with same | same <;> cases same
      · obtain ⟨l, rfl⟩ := placeAtCall second
        rcases placeAtWorker first with same | same <;> cases same
  · intro p first second
    exact different ((placeNumber first).symm.trans (placeNumber second))

theorem workerPasses {s : State} {i : Nat} {w : Worker} (e : Event) (found : s.workers[i]? = some w)
    (place : w.stage.place i = some (.worker i)) :
    ∃ q, Passes (.worker i) q ∧ (s.apply e).Holds w.arrival q := by
  obtain ⟨next, now, move⟩ := workerMoves e found
  obtain ⟨arrival, owner, deadline, stage⟩ := w
  have reads : next.place i = some (.worker i) → ∃ q, Passes (.worker i) q ∧ (s.apply e).Holds arrival q :=
    fun place => ⟨_, .stays, _, now, rfl, place⟩
  have loses : next.place i = some (.dropped i) → ∃ q, Passes (.worker i) q ∧ (s.apply e).Holds arrival q :=
    fun place => ⟨_, .drops, _, now, rfl, place⟩
  cases move with
  | rest => exact reads place
  | fed | filled | routed => exact reads rfl
  | lost | aborted | astray | refused | vanished => exact loses rfl
  | rung => cases place
  | @pushed header l _ event _ _ _ grown =>
    cases queueMoves s e with
    | still same =>
      rw [same] at grown
      omega
    | popped other =>
      rw [event] at other
      cases other
    | @pushed j k v header' _ other worker stage _ _ _ longer =>
      obtain rfl : i = j := by
        rw [event] at other
        exact Event.workerStep.inj other
      obtain rfl := Option.some.inj (found.symm.trans worker)
      cases stage
      refine ⟨.slot l (s.waiting l).length, .queues, ⟨.ofHeader arrival.connection header, arrival.peer⟩, ?_, rfl⟩
      rw [longer l, if_pos rfl, List.getElem?_concat_length]

theorem slotPasses {s : State} {l k : Nat} {routed : Routed} (e : Event) (found : (s.waiting l)[k]? = some routed) :
    ∃ q, Passes (.slot l k) q ∧ (s.apply e).Holds routed.arrival q := by
  cases queueMoves s e with
  | still same => exact ⟨_, .stays, routed, by rw [same, found], rfl⟩
  | @pushed i j w header _ _ _ _ _ _ _ grown =>
    refine ⟨_, .stays, routed, ?_, rfl⟩
    rw [grown l]
    split
    · subst j
      rw [List.getElem?_append_left (List.getElem?_eq_some_iff.mp found).1, found]
    · exact found
  | @popped call j first rest _ _ waits shrunk next =>
    by_cases same : l = j
    · subst j
      rw [waits] at found
      cases k with
      | zero =>
        cases Option.some.inj found
        exact ⟨_, .leaves, _, _, next, rfl, rfl⟩
      | succ k =>
        rw [List.getElem?_cons_succ] at found
        exact ⟨_, .advances, routed, by rw [shrunk l, if_pos rfl, found], rfl⟩
    · exact ⟨_, .stays, routed, by rw [shrunk l, if_neg same, found], rfl⟩

theorem callPasses {s : State} {l i : Nat} {stage : AcceptStage} {routed : Routed} (e : Event)
    (found : s.accepts[i]? = some ⟨l, stage⟩) (taken : stage.taken = some routed) :
    (s.apply e).Holds routed.arrival (.call l i) := by
  obtain ⟨next, now, move⟩ := acceptMoves e found
  have same : next.taken = stage.taken := by
    cases move with
    | rest => rfl
    | @returned result => cases result <;> rfl
    | entered _ before => rcases before with h | h <;> (dsimp only at h; rw [h] at taken; cases taken)
    | cancelled _ before => rcases before with h | h <;> (dsimp only at h; rw [h] at taken; cases taken)
    | popped | ended | slept | woken => cases taken
  exact ⟨next, routed, now, same.trans taken, rfl⟩

theorem droppedPasses {s : State} {i : Nat} {w : Worker} (e : Event) (found : s.workers[i]? = some w)
    (place : w.stage.place i = some (.dropped i)) : (s.apply e).Holds w.arrival (.dropped i) := by
  obtain ⟨next, now, move⟩ := workerMoves e found
  obtain ⟨arrival, owner, deadline, stage⟩ := w
  cases move with
  | rest => exact ⟨_, now, rfl, place⟩
  | rung | fed | filled | lost | aborted | routed | astray | pushed | refused | vanished => cases place

theorem holdsPasses {s : State} {c : Arrival} {p : Place} (e : Event) (held : s.Holds c p) :
    ∃ q, Passes p q ∧ (s.apply e).Holds c q := by
  cases p with
  | worker i =>
    obtain ⟨w, found, rfl, place⟩ := held
    exact workerPasses e found place
  | slot l k =>
    obtain ⟨routed, found, rfl⟩ := held
    exact slotPasses e found
  | call l i =>
    obtain ⟨stage, routed, found, taken, rfl⟩ := held
    exact ⟨_, .stays, callPasses e found taken⟩
  | dropped i =>
    obtain ⟨w, found, rfl, place⟩ := held
    exact ⟨_, .stays, droppedPasses e found place⟩

theorem holdsFinal {s : State} {c : Arrival} {p : Place} (final : p.isFinal = true) (held : s.Holds c p)
    (events : List Event) : (s.run events).Holds c p := by
  induction events generalizing s with
  | nil => exact held
  | cons e rest ih =>
    obtain ⟨q, pass, next⟩ := holdsPasses e held
    cases pass with
    | stays => exact ih next
    | drops | queues | advances | leaves => cases final

/- What is queued stays in its queue, never behind where it was, until a call of that listener takes it. -/
theorem slotRun {s : State} {c : Arrival} {l k : Nat} (held : s.Holds c (.slot l k)) (events : List Event) :
    (∃ j ≤ k, (s.run events).Holds c (.slot l j)) ∨ ∃ i, (s.run events).Holds c (.call l i) := by
  induction events generalizing s k with
  | nil => exact .inl ⟨k, Nat.le_refl k, held⟩
  | cons e rest ih =>
    obtain ⟨q, pass, next⟩ := holdsPasses e held
    cases pass with
    | stays => exact ih next
    | advances =>
      rcases ih next with ⟨j, before, here⟩ | taken
      · exact .inl ⟨j, Nat.le_succ_of_le before, here⟩
      · exact .inr taken
    | leaves => exact .inr ⟨_, holdsFinal rfl next rest⟩

end State
end SharedPort.Selector
