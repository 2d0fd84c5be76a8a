import SharedPort.Proofs.Gateway.Delivery

/-! Each connection is forwarded once at most. The forwards of a loop are the results of as many accept calls, no call
has two of them, and a connection is with one call at most. -/
namespace SharedPort.Gateway
open SharedPort.Selector (State Routed Worker Arrival Waiter Place)

def Balanced (w : World) : Prop :=
  (w.selector.places.map Prod.snd).Perm (w.selector.workers.map Worker.arrival)

theorem balancedTurn {w : World} (balanced : Balanced w) (t : Turn) : Balanced (w.turn t) := by
  unfold Balanced at balanced ⊢
  rcases turnActs w t with same | ⟨e, _, same⟩
  · rw [same]
    exact balanced
  · rw [same, State.arrivalsApply]
    exact (State.placesApply w.selector e).trans (balanced.append_right _)

theorem oneWorker {g : Gateway} {w : World} (sound : Sound g w) {i : Nat} {v : Worker}
    (found : w.selector.workers[i]? = some v) : (w.selector.workers.map Worker.arrival).count v.arrival = 1 := by
  refine List.count_eq_one_of_mem ?_ (List.mem_map_of_mem (List.mem_of_getElem? found))
  rw [List.Nodup, List.pairwise_iff_getElem]
  intro j k insideJ insideK before same
  simp only [List.getElem_map] at same
  rw [List.length_map] at insideJ insideK
  have first := sound.numbered j _ (List.getElem?_eq_getElem insideJ)
  have second := sound.numbered k _ (List.getElem?_eq_getElem insideK)
  rw [same, second] at first
  omega

/- Whatever is held somewhere came with the worker of its number, and is nowhere else. -/
theorem heldOnce {g : Gateway} {w : World} (sound : Sound g w) (balanced : Balanced w) {c d : Arrival} {p q : Place}
    (held : w.selector.Holds c p) (also : w.selector.Holds d q) (same : c.connection = d.connection) : p = q := by
  have worker : ∀ {c p}, w.selector.Holds c p → ∃ v, w.selector.workers[c.connection]? = some v ∧ v.arrival = c := by
    intro c p held
    have member := balanced.subset (List.mem_map_of_mem (State.memPlaces.mpr held))
    obtain ⟨v, present, arrival⟩ := List.mem_map.mp member
    obtain ⟨k, found⟩ := List.getElem?_of_mem present
    have number := sound.numbered k v found
    rw [arrival] at number
    exact ⟨v, number ▸ found, arrival⟩
  obtain ⟨v, found, rfl⟩ := worker held
  obtain ⟨u, again, rfl⟩ := worker also
  rw [← same, found] at again
  obtain rfl := Option.some.inj again
  obtain ⟨place, _, only⟩ := State.onePlace ((balanced.count_eq _).trans (oneWorker sound found))
  exact (only p (State.memPlaces.mpr held)).trans (only q (State.memPlaces.mpr also)).symm

theorem returnedTurn {w : World} {call l : Nat} {result : Except Error Routed} (t : Turn)
    (found : w.selector.accepts[call]? = some ⟨l, .returned result⟩) :
    (w.turn t).selector.accepts[call]? = some ⟨l, .returned result⟩ := by
  rcases turnActs w t with same | ⟨e, _, same⟩
  · rw [same, found]
  · obtain ⟨stage, next, move⟩ := State.acceptMoves e found
    have stays : stage = .returned result := by
      generalize was : ({ listener := l, stage := .returned result } : Selector.Accept).stage = before at move
      cases move with
      | rest => exact was.symm
      | entered _ others => subst was; rcases others with h | h <;> cases h
      | cancelled _ others => subst was; rcases others with h | h <;> cases h
      | popped | ended | slept | returned | woken => cases was
    rw [same, next, stays]

/- The accept calls whose results a loop has forwarded, in order. -/
structure Ledger (w : World) (l : Nat) (v : Serving) (calls : List Nat) : Prop where
  distinct : calls.Nodup
  past : ∀ call ∈ calls, v.waiting ≠ some call
  length : calls.length = (connections v).length
  handed : ∀ (j : Nat) routed, (connections v)[j]? = some routed → ∃ call, calls[j]? = some call ∧
    w.selector.accepts[call]? = some ⟨l, .returned (.ok routed)⟩

theorem LoopTurn.waiting {w w' : World} {t : Turn} {l : Nat} {v v' : Serving} {x y : Option Waiter}
    (turn : LoopTurn w w' t l v v' x y) : v'.waiting = v.waiting ∨ y = none ∨ y = some .begun := by
  cases turn with
  | rest _ same | rung _ _ _ same | stepped _ same | noted _ same => exact .inl (by rw [same])
  | listened => exact .inr (.inr rfl)
  | taken | joined => exact .inr (.inl rfl)

theorem ledgerTurn {w : World} {t : Turn} {l : Nat} {v v' : Serving} {x y : Option Waiter} {calls : List Nat}
    (ledger : Ledger w l v calls) (serving : v.loop.stage = .serving) (waiter : w.selector.WaiterAt l v.waiting x)
    (waiter' : (w.turn t).selector.WaiterAt l v'.waiting y) (turn : LoopTurn w (w.turn t) t l v v' x y) :
    ∃ calls', Ledger (w.turn t) l v' calls' := by
  obtain ⟨distinct, past, length, handed⟩ := ledger
  have still : ∀ (j : Nat) routed, (connections v)[j]? = some routed → ∃ call, calls[j]? = some call ∧
      (w.turn t).selector.accepts[call]? = some ⟨l, .returned (.ok routed)⟩ := by
    intro j routed found
    obtain ⟨call, listed, result⟩ := handed j routed found
    exact ⟨call, listed, returnedTurn t result⟩
  rcases turn.connections serving with same | ⟨routed, rfl, rfl, grown⟩
  · refine ⟨calls, distinct, fun call member waits => ?_, by rw [length, same], by rw [same]; exact still⟩
    rcases turn.waiting with unchanged | rfl | rfl
    · exact past call member (unchanged ▸ waits)
    · rw [waits] at waiter'
      cases waiter'
    · obtain ⟨j, listed⟩ := List.getElem?_of_mem member
      have inside : j < (connections v).length := length ▸ (List.getElem?_eq_some_iff.mp listed).1
      obtain ⟨other, again, result⟩ := still j _ (List.getElem?_eq_getElem inside)
      obtain rfl := Option.some.inj (listed.symm.trans again)
      rw [waits] at waiter'
      cases waiter' with
      | waits found =>
        rw [result] at found
        cases found
  · cases waiting : v.waiting with
    | none =>
      rw [waiting] at waiter
      cases waiter
    | some call =>
      rw [waiting] at waiter
      have idle : v'.waiting = none := by
        generalize v'.waiting = waiting at waiter'
        cases waiter'
        rfl
      cases waiter with
      | waits found =>
        refine ⟨calls ++ [call], ?_, fun _ _ => by rw [idle]; exact nofun, ?_, fun j other here => ?_⟩
        · refine List.nodup_append.mpr ⟨distinct, List.nodup_singleton call, fun a member b last same => ?_⟩
          obtain rfl := List.mem_singleton.mp last
          exact past a member (same ▸ waiting)
        · rw [grown, List.length_append, List.length_append, length]
          rfl
        · rw [grown] at here
          by_cases old : j < (connections v).length
          · rw [List.getElem?_append_left old] at here
            obtain ⟨other, listed, result⟩ := still j _ here
            exact ⟨other, by rw [List.getElem?_append_left (length ▸ old), listed], result⟩
          · have last : j = (connections v).length := by
              have bound := (List.getElem?_eq_some_iff.mp here).1
              rw [List.length_append, List.length_singleton] at bound
              omega
            subst j
            rw [List.getElem?_concat_length] at here
            obtain rfl := Option.some.inj here
            exact ⟨call, by rw [← length, List.getElem?_concat_length], returnedTurn t found⟩

theorem Ledger.held {w : World} {l j : Nat} {v : Serving} {calls : List Nat} {routed : Routed}
    (ledger : Ledger w l v calls) (found : (connections v)[j]? = some routed) :
    ∃ call, calls[j]? = some call ∧ w.selector.Holds routed.arrival (.call l call) := by
  obtain ⟨call, listed, result⟩ := ledger.handed j routed found
  exact ⟨call, listed, _, routed, result, rfl, rfl⟩

theorem contactFound {w : World} {l j : Nat} {target : String} {routed : Routed}
    (contact : w.contact l j = some (target, routed)) :
    ∃ v, w.loops[l]? = some v ∧ v.loop.target = target ∧ (connections v)[j]? = some routed := by
  obtain ⟨v, loop, found⟩ := Option.bind_eq_some_iff.mp contact
  obtain ⟨f, here, same⟩ := Option.map_eq_some_iff.mp found
  cases same
  exact ⟨v, loop, rfl, by rw [connections, List.getElem?_map, here, Option.map_some]⟩

theorem contactMade {w : World} {l j : Nat} {v : Serving} {routed : Routed} (loop : w.loops[l]? = some v)
    (found : (connections v)[j]? = some routed) : w.contact l j = some (v.loop.target, routed) := by
  rw [connections, List.getElem?_map] at found
  obtain ⟨f, here, same⟩ := Option.map_eq_some_iff.mp found
  simp only [World.contact, loop, Option.bind_some, here, Option.map_some, same]

theorem contactTurn {g : Gateway} {w : World} {l j : Nat} {target : String} {routed : Routed} (sound : Sound g w)
    (t : Turn) (contact : w.contact l j = some (target, routed)) : (w.turn t).contact l j = some (target, routed) := by
  obtain ⟨v, loop, rfl, found⟩ := contactFound contact
  obtain ⟨_, _, serving, x, waiter⟩ := sound.loops l v loop
  obtain ⟨v', y, next, _, turn⟩ := loopTurn sound t loop waiter
  obtain ⟨_, target, _⟩ := turn.frame
  rw [← target]
  refine contactMade next ?_
  rcases turn.connections serving with same | ⟨_, _, _, grown⟩
  · rw [same, found]
  · rw [grown, List.getElem?_append_left (List.getElem?_eq_some_iff.mp found).1, found]

theorem contactOnce {g : Gateway} {w : World} (sound : Sound g w) (balanced : Balanced w)
    (ledgers : ∀ l v, w.loops[l]? = some v → ∃ calls, Ledger w l v calls) {l j l' j' : Nat} {target target' : String}
    {routed routed' : Routed} (first : w.contact l j = some (target, routed))
    (second : w.contact l' j' = some (target', routed')) (same : routed.stream.inner = routed'.stream.inner) :
    l = l' ∧ j = j' := by
  obtain ⟨v, loop, _, found⟩ := contactFound first
  obtain ⟨v', loop', _, found'⟩ := contactFound second
  obtain ⟨calls, ledger⟩ := ledgers l v loop
  obtain ⟨calls', ledger'⟩ := ledgers l' v' loop'
  obtain ⟨call, listed, held⟩ := ledger.held found
  obtain ⟨_, _, also⟩ := ledger'.held found'
  cases heldOnce sound balanced held also same
  cases loop.symm.trans loop'
  -- The same loop has one ledger for both.
  obtain ⟨again, listed', held'⟩ := ledger.held found'
  cases heldOnce sound balanced held held' same
  have inside := (List.getElem?_eq_some_iff.mp listed).1
  exact ⟨rfl, (List.getElem?_inj inside ledger.distinct).mp (listed.trans listed'.symm)⟩

end SharedPort.Gateway
