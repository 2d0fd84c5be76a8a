import Mathlib.Data.List.Perm.Basic
import SharedPort.Proofs.Selector.Places

/-! No connection is lost and none is doubled. At every moment of a run the places together hold exactly what the source
returned, each connection as often as it was returned. -/
namespace SharedPort.Selector.State

def total (contents : Nat → List (Place × Arrival)) (n : Nat) : List Arrival :=
  (List.range n).flatMap fun k => (contents k).map Prod.snd

theorem totalSame {f g : Nat → List (Place × Arrival)} {n : Nat}
    (same : ∀ k, (f k).map Prod.snd = (g k).map Prod.snd) : total f n = total g n :=
  List.flatMap_congr fun k _ => same k

theorem totalMore {f g : Nat → List (Place × Arrival)} {n l : Nat} {extra : List Arrival} (inside : l < n)
    (others : ∀ k, k ≠ l → (f k).map Prod.snd = (g k).map Prod.snd)
    (here : ((f l).map Prod.snd).Perm ((g l).map Prod.snd ++ extra)) : (total f n).Perm (total g n ++ extra) := by
  induction n with
  | zero => omega
  | succ n ih =>
    have next : ∀ h, total h (n + 1) = total h n ++ (h n).map Prod.snd := by
      intro h
      rw [total, List.range_succ, List.flatMap_append, List.flatMap_singleton]
      rfl
    rw [next f, next g]
    by_cases last : l = n
    · subst l
      have before : total f n = total g n :=
        List.flatMap_congr fun k member => others k (Nat.ne_of_lt (List.mem_range.mp member))
      rw [before, List.append_assoc]
      exact here.append_left _
    · rw [others n fun h => last h.symm]
      have before := (ih (by omega)).append_right ((g n).map Prod.snd)
      refine before.trans ?_
      rw [List.append_assoc, List.append_assoc]
      exact List.perm_append_comm.append_left _

theorem totalBeyond {f : Nat → List (Place × Arrival)} {m n : Nat} (le : m ≤ n) (none : ∀ k, m ≤ k → f k = []) :
    total f n = total f m := by
  obtain ⟨d, rfl⟩ := Nat.exists_eq_add_of_le le
  have rest : ((List.range d).map (m + ·)).flatMap (fun k => (f k).map Prod.snd) = [] := by
    refine List.flatMap_eq_nil_iff.mpr fun k member => ?_
    obtain ⟨j, _, rfl⟩ := List.mem_map.mp member
    rw [none _ (Nat.le_add_right m j), List.map_nil]
  rw [total, List.range_add, List.flatMap_append, rest, List.append_nil, total]

theorem placesTotal {s : State} {n : Nat} (bound : s.size ≤ n) :
    (s.places.map Prod.snd).Perm (total s.atWorker n ++ (total s.atListener n ++ total s.atCall n)) := by
  have workers : total s.atWorker n = total s.atWorker s.size := by
    refine totalBeyond bound fun k beyond => ?_
    unfold size at beyond
    rw [atWorker, List.getElem?_eq_none (by omega)]
    rfl
  have listeners : total s.atListener n = total s.atListener s.size := by
    refine totalBeyond bound fun k beyond => ?_
    unfold size at beyond
    rw [atListener, waiting, List.getElem?_eq_none (by omega)]
    rfl
  have calls : total s.atCall n = total s.atCall s.size := by
    refine totalBeyond bound fun k beyond => ?_
    unfold size at beyond
    rw [atCall, List.getElem?_eq_none (by omega)]
    rfl
  rw [workers, listeners, calls, places, List.map_flatMap]
  simp only [List.map_append]
  refine (List.flatMap_append_perm _ _ _).symm.trans (List.Perm.append_left _ ?_)
  exact (List.flatMap_append_perm _ _ _).symm

theorem carriedNew {s : State} {k : Nat} (e : Event) (fresh : s.workers[k]? = none) :
    ((s.apply e).atWorker k).map Prod.snd = ((s.joins e)[k - s.workers.length]?).toList.map Worker.arrival := by
  rw [atWorker, workersNew e fresh]
  cases joined : (s.joins e)[k - s.workers.length]? with
  | none => rfl
  | some w =>
    have reads := joinsPeeking (List.mem_of_getElem? joined)
    simp only [Option.bind_some, reads, WorkerStage.place]
    rfl

theorem carriedMoves {s : State} {i : Nat} {w : Worker} (e : Event) (found : s.workers[i]? = some w) :
    ((s.apply e).atWorker i).map Prod.snd = (s.atWorker i).map Prod.snd ∨
    e = .workerStep i ∧ ∃ l, ((s.apply e).waiting l).length = (s.waiting l).length + 1 := by
  obtain ⟨next, now, move⟩ := workerMoves e found
  obtain ⟨arrival, owner, deadline, stage⟩ := w
  simp only [atWorker, now, found, Option.bind_some]
  cases move with
  | pushed event _ _ _ grown => exact .inr ⟨event, _, grown⟩
  | rest | fed | filled | lost | aborted | routed | astray | refused | vanished | rung => exact .inl rfl

theorem takenMoves (s : State) (e : Event) (i : Nat) :
    ((s.apply e).atCall i).map Prod.snd = (s.atCall i).map Prod.snd ∨
    e = .acceptStep i ∧ ∃ l, (s.waiting l).length = ((s.apply e).waiting l).length + 1 := by
  cases found : s.accepts[i]? with
  | none =>
    left
    simp only [atCall, found, Option.bind_none]
    cases new : (s.apply e).accepts[i]? with
    | none => rfl
    | some a =>
      obtain ⟨l, stage⟩ := a
      cases acceptsNew e found new
      rfl
  | some a =>
    obtain ⟨next, now, move⟩ := acceptMoves e found
    obtain ⟨l, stage⟩ := a
    simp only [atCall, now, found, Option.bind_some]
    cases move with
    | popped event waits shrunk => exact .inr ⟨event, l, by rw [waits, shrunk, List.length_cons]⟩
    | rest => exact .inl rfl
    | @returned result => exact .inl (by cases result <;> rfl)
    | ended | slept | woken => exact .inl rfl
    | entered _ before => rcases before with rfl | rfl <;> exact .inl rfl
    | cancelled _ before => rcases before with rfl | rfl <;> exact .inl rfl

theorem joinsOne (s : State) (e : Event) : s.joins e = [] ∨ ∃ w, s.joins e = [w] := by
  cases e with
  | accepted call arrival =>
    by_cases accepting : s.isAccepting call
    · exact .inr ⟨_, if_pos accepting⟩
    · exact .inl (if_neg accepting)
  | _ => exact .inl rfl

theorem emptyWorker {s : State} {k : Nat} (none : s.workers[k]? = none) : s.atWorker k = [] := by
  rw [atWorker, none]
  rfl

theorem workersTotal {s : State} {e : Event} {n : Nat} (bound : (s.apply e).size ≤ n)
    (still : ∀ l, ((s.apply e).waiting l).length ≠ (s.waiting l).length + 1) :
    (total (s.apply e).atWorker n).Perm (total s.atWorker n ++ (s.joins e).map Worker.arrival) := by
  have present : ∀ {k w}, s.workers[k]? = some w →
      ((s.apply e).atWorker k).map Prod.snd = (s.atWorker k).map Prod.snd := by
    intro k w found
    rcases carriedMoves e found with same | ⟨_, l, grown⟩
    · exact same
    · exact (still l grown).elim
  rcases joinsOne s e with none | ⟨new, one⟩
  · rw [none, List.map_nil, List.append_nil]
    refine .of_eq (totalSame fun k => ?_)
    cases found : s.workers[k]? with
    | none =>
      rw [carriedNew e found, none, emptyWorker found]
      rfl
    | some w => exact present found
  · have longer := congrArg List.length (arrivalsApply s e)
    simp only [one, List.length_map, List.length_append, List.length_singleton] at longer
    unfold size at bound
    refine totalMore (l := s.workers.length) (by omega) (fun k other => ?_) (.of_eq ?_)
    · cases found : s.workers[k]? with
      | none =>
        have beyond := List.getElem?_eq_none_iff.mp found
        rw [carriedNew e found, one, emptyWorker found,
          List.getElem?_eq_none (by simp only [List.length_singleton]; omega)]
        rfl
      | some w => exact present found
    · have fresh : s.workers[s.workers.length]? = none := List.getElem?_eq_none (Nat.le_refl _)
      rw [carriedNew e fresh, one, emptyWorker fresh, Nat.sub_self]
      rfl

theorem listenerArrivals (s : State) (l : Nat) :
    (s.atListener l).map Prod.snd = (s.waiting l).map Routed.arrival := by
  apply List.ext_getElem
  · simp [atListener]
  · intro k _ _
    simp [atListener]

theorem callsTotal {s : State} {e : Event} {n : Nat}
    (still : ∀ l, (s.waiting l).length ≠ ((s.apply e).waiting l).length + 1) :
    total (s.apply e).atCall n = total s.atCall n := by
  refine totalSame fun k => ?_
  rcases takenMoves s e k with same | ⟨_, l, shrunk⟩
  · exact same
  · exact (still l shrunk).elim

/- What a worker lets go of is what its queue gets; what leaves a queue is what a call gets. -/
theorem pushedTotal {s : State} {i l n : Nat} {w : Worker} {header : Bytes} (bound : s.size ≤ n)
    (worker : s.workers[i]? = some w) (stage : w.stage = .found header l)
    (next : (s.apply (.workerStep i)).workers[i]? = some { w with stage := .ringing l }) :
    (total s.atWorker n).Perm (total (s.apply (.workerStep i)).atWorker n ++ [w.arrival]) := by
  have inside := (List.getElem?_eq_some_iff.mp worker).1
  unfold size at bound
  refine totalMore (l := i) (by omega) (fun k other => ?_) (.of_eq ?_)
  · cases found : s.workers[k]? with
    | none =>
      rw [carriedNew _ found, emptyWorker found]
      rfl
    | some v =>
      rcases carriedMoves (.workerStep i) found with same | ⟨again, _⟩
      · exact same.symm
      · exact (other (Event.workerStep.inj again).symm).elim
  · simp only [atWorker, worker, next, stage, Option.bind_some, WorkerStage.place]
    rfl

theorem queuedTotal {s t : State} {l n : Nat} {routed : Routed} (inside : l < n)
    (grown : ∀ k, t.waiting k = if k = l then s.waiting l ++ [routed] else s.waiting k) :
    (total t.atListener n).Perm (total s.atListener n ++ [routed.arrival]) := by
  refine totalMore inside (fun k other => ?_) (.of_eq ?_)
  · rw [listenerArrivals, listenerArrivals, grown k, if_neg other]
  · rw [listenerArrivals, listenerArrivals, grown l, if_pos rfl, List.map_append]
    rfl

theorem poppedTotal {s t : State} {l n : Nat} {routed : Routed} {rest : List Routed} (inside : l < n)
    (waits : s.waiting l = routed :: rest) (shrunk : ∀ k, t.waiting k = if k = l then rest else s.waiting k) :
    (total s.atListener n).Perm (total t.atListener n ++ [routed.arrival]) := by
  refine totalMore inside (fun k other => ?_) ?_
  · rw [listenerArrivals, listenerArrivals, shrunk k, if_neg other]
  · rw [listenerArrivals, listenerArrivals, shrunk l, if_pos rfl, waits, List.map_cons]
    exact (List.perm_append_singleton _ _).symm

theorem takenTotal {s : State} {call l n : Nat} {routed : Routed} (inside : call < n)
    (looks : s.accepts[call]? = some ⟨l, .looking⟩)
    (next : (s.apply (.acceptStep call)).accepts[call]? = some ⟨l, .leaving (.ok routed)⟩) :
    (total (s.apply (.acceptStep call)).atCall n).Perm (total s.atCall n ++ [routed.arrival]) := by
  refine totalMore inside (fun k other => ?_) (.of_eq ?_)
  · rcases takenMoves s (.acceptStep call) k with same | ⟨again, _⟩
    · exact same
    · exact (other (Event.acceptStep.inj again).symm).elim
  · simp only [atCall, looks, next, Option.bind_some, AcceptStage.taken]
    rfl

theorem placesApply (s : State) (e : Event) :
    ((s.apply e).places.map Prod.snd).Perm (s.places.map Prod.snd ++ (s.joins e).map Worker.arrival) := by
  obtain ⟨n, before, after⟩ : ∃ n, s.size ≤ n ∧ (s.apply e).size ≤ n := ⟨_, Nat.le_max_left .., Nat.le_max_right ..⟩
  have old := placesTotal before
  have new := placesTotal after
  have bound := before
  unfold size at bound
  refine List.perm_iff_count.mpr fun c => ?_
  have counts := new.count_eq c
  have counted := old.count_eq c
  simp only [List.count_append] at counts counted ⊢
  cases queueMoves s e with
  | still same =>
    have workers := (workersTotal after fun l => by rw [same]; omega).count_eq c
    have listeners : total (s.apply e).atListener n = total s.atListener n :=
      totalSame fun l => by rw [listenerArrivals, listenerArrivals, same]
    have calls : total (s.apply e).atCall n = total s.atCall n := callsTotal fun l => by rw [same]; omega
    rw [List.count_append] at workers
    rw [listeners, calls] at counts
    omega
  | @pushed i l w header L event worker stage target _ _ grown next =>
    subst event
    have inside := (List.getElem?_eq_some_iff.mp target).1
    have workers := (pushedTotal before worker stage next).count_eq c
    have listeners := (queuedTotal (n := n) (by omega) grown).count_eq c
    have calls : total (s.apply (.workerStep i)).atCall n = total s.atCall n := by
      refine callsTotal fun k => ?_
      rw [grown k]
      split
      · subst k
        rw [List.length_append]
        omega
      · omega
    rw [List.count_append] at workers listeners
    rw [calls] at counts
    have here : Routed.arrival ⟨.ofHeader w.arrival.connection header, w.arrival.peer⟩ = w.arrival := rfl
    rw [here] at listeners
    have idle : s.joins (.workerStep i) = [] := rfl
    rw [idle, List.map_nil, List.count_nil]
    omega
  | @popped call l routed rest event looks waits shrunk next =>
    subst event
    have caller := (List.getElem?_eq_some_iff.mp looks).1
    have inside := waitingBounded (s := s) (l := l) (k := 0) (by rw [waits]; rfl)
    have workers := (workersTotal after fun k => by
      rw [shrunk k]
      split
      · subst k
        rw [waits, List.length_cons]
        omega
      · omega).count_eq c
    have listeners := (poppedTotal (n := n) (by omega) waits shrunk).count_eq c
    have calls := (takenTotal (n := n) (by omega) looks next).count_eq c
    rw [List.count_append] at workers listeners calls
    omega

theorem placesRun (s : State) (events : List Event) :
    ((s.run events).places.map Prod.snd).Perm (s.places.map Prod.snd ++ returned s events) := by
  induction events generalizing s with
  | nil =>
    rw [returned, List.append_nil]
    exact List.Perm.refl _
  | cons e rest ih =>
    refine (ih (s.apply e)).trans ?_
    rw [returned, ← List.append_assoc]
    exact (placesApply s e).append_right _

theorem onePlace {places : List (Place × Arrival)} {c : Arrival} (once : (places.map Prod.snd).count c = 1) :
    ∃! p, (p, c) ∈ places := by
  induction places with
  | nil => simp at once
  | cons entry rest ih =>
    obtain ⟨p, d⟩ := entry
    rw [List.map_cons, List.count_cons] at once
    by_cases same : d = c
    · subst d
      have absent : c ∉ rest.map Prod.snd := List.count_eq_zero.mp (by simpa using once)
      refine ⟨p, List.mem_cons_self, fun q member => ?_⟩
      rcases List.mem_cons.mp member with here | there
      · exact congrArg Prod.fst here
      · exact (absent (List.mem_map.mpr ⟨_, there, rfl⟩)).elim
    · obtain ⟨q, member, only⟩ := ih (by simpa [same] using once)
      refine ⟨q, List.mem_cons_of_mem _ member, fun r here => only r ?_⟩
      rcases List.mem_cons.mp here with head | tail
      · exact (same (congrArg Prod.snd head).symm).elim
      · exact tail

/- The law of ownership for a run from `s₀`: the places hold what was returned, and how they change. -/
structure Ownership (s₀ : State) (events : List Event) : Prop where
  balance : ((s₀.run events).places.map Prod.snd).Perm (returned s₀ events)
  distinct : ((s₀.run events).places.map Prod.fst).Nodup
  listed : ∀ p c, (p, c) ∈ (s₀.run events).places ↔ (s₀.run events).Holds c p
  owned : ∀ c, (returned s₀ events).count c = 1 → ∃! p, (s₀.run events).Holds c p
  steps : ∀ c p, (s₀.run events).Holds c p → ∀ e, ∃ q, Passes p q ∧ ((s₀.run events).apply e).Holds c q
  final : ∀ c p, p.isFinal = true → (s₀.run events).Holds c p → ∀ more, ((s₀.run events).run more).Holds c p
  queued : ∀ c l k, (s₀.run events).Holds c (.slot l k) → ∀ more,
    (∃ j ≤ k, ((s₀.run events).run more).Holds c (.slot l j)) ∨
    ∃ i, ((s₀.run events).run more).Holds c (.call l i)

theorem ownedByOne {setup : Setup} {s₀ : State} (made : create setup = .ok s₀) (events : List Event) :
    Ownership s₀ events where
  balance := by
    obtain ⟨rfl, _⟩ := created made
    exact placesRun _ events
  distinct := placesDistinct _
  listed := fun _ _ => memPlaces
  owned := by
    intro c once
    obtain ⟨rfl, _⟩ := created made
    have balance := (placesRun { setup } events).count_eq c
    obtain ⟨p, member, only⟩ := onePlace (balance.trans once)
    exact ⟨p, memPlaces.mp member, fun q held => only q (memPlaces.mpr held)⟩
  steps := fun _ _ held e => holdsPasses e held
  final := fun _ _ final held more => holdsFinal final held more
  queued := fun _ _ _ held more => slotRun held more

def pairTaken : List Event :=
  pairRun ++ [.workerStep 0, .workerStep 0, .beginAccept 0, .acceptStep 0, .acceptStep 0]

theorem pairOwnedByCall :
    create pairSetup = .ok { setup := pairSetup } ∧ Ownership { setup := pairSetup } pairTaken ∧
    (run { setup := pairSetup } pairTaken).Holds ⟨7, ⟨.v4 10 0 0 1, 5000⟩⟩ (.call 0 0) := by
  have made : create pairSetup = .ok { setup := pairSetup } := rfl
  exact ⟨made, ownedByOne made pairTaken, _, _, rfl, rfl, rfl⟩

end SharedPort.Selector.State
