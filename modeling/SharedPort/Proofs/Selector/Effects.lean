import SharedPort.Selector.Step

/-! What each event does to the workers, the queues and the accept calls of a selector. An event that belongs to none of
them is quiet. The others move one worker, or one accept call, or drop the workers of one serve call. -/
namespace SharedPort.Selector.State
open SharedPort.Stream (Attempt Gather Replay)

theorem runAppend (s : State) (before after : List Event) :
    s.run (before ++ after) = (s.run before).run after := List.foldl_append

theorem runSnoc (s : State) (events : List Event) (e : Event) :
    s.run (events ++ [e]) = (s.run events).apply e := runAppend s events [e]

def waiting (s : State) (l : Nat) : List Routed := ((s.listeners[l]?).map (·.queue.items)).getD []

theorem waitingOfListener {s : State} {l : Nat} {L : Listener Routed} (found : s.listeners[l]? = some L) :
    s.waiting l = L.queue.items := by simp [waiting, found]

theorem waitingSetListener {s : State} {i : Nat} {change : Listener Routed → Listener Routed}
    (keeps : ∀ L, (change L).queue.items = L.queue.items) (l : Nat) :
    (s.setListener i change).waiting l = s.waiting l := by
  simp only [waiting, setListener, List.getElem?_modify]
  cases s.listeners[l]? with
  | none => rfl
  | some L => by_cases same : i = l <;> simp [same, keeps]

theorem waitingSetQueue {s : State} {i : Nat} {L : Listener Routed} (found : s.listeners[i]? = some L)
    (queue : Listener.Queue Routed) (l : Nat) :
    (s.setListener i ({ · with queue })).waiting l = if l = i then queue.items else s.waiting l := by
  simp only [waiting, setListener, List.getElem?_modify]
  by_cases same : l = i
  · subst l; simp [found]
  · have other : i ≠ l := fun h => same h.symm
    simp only [if_neg other, if_neg same]
    cases s.listeners[l]? <;> rfl

structure Continues (old new : Listener Routed) : Prop where
  key : new.key = old.key
  address : new.address = old.address
  capacity : new.capacity = old.capacity
  closed : old.queue.closed = true → new.queue.closed = true

theorem Continues.refl (L : Listener Routed) : Continues L L := ⟨rfl, rfl, rfl, id⟩

theorem Continues.trans {K L M : Listener Routed} (first : Continues K L) (second : Continues L M) :
    Continues K M :=
  ⟨second.key.trans first.key, second.address.trans first.address, second.capacity.trans first.capacity,
    fun h => second.closed (first.closed h)⟩

def Kept (s t : State) : Prop :=
  ∀ (l : Nat) (L : Listener Routed), s.listeners[l]? = some L → ∃ M, t.listeners[l]? = some M ∧ Continues L M

theorem Kept.refl (s : State) : Kept s s := fun _ L found => ⟨L, found, Continues.refl L⟩

theorem Kept.trans {s t u : State} (first : Kept s t) (second : Kept t u) : Kept s u := by
  intro l K found
  obtain ⟨L, next, before⟩ := first l K found
  obtain ⟨M, last, after⟩ := second l L next
  exact ⟨M, last, before.trans after⟩

theorem keptSetListener {s : State} {i : Nat} {change : Listener Routed → Listener Routed}
    (keeps : ∀ L, s.listeners[i]? = some L → Continues L (change L)) : Kept s (s.setListener i change) := by
  intro l L found
  simp only [setListener, List.getElem?_modify, found, Option.map_eq_map, Option.map_some]
  by_cases same : i = l
  · subst l; exact ⟨change L, by simp, keeps L found⟩
  · exact ⟨L, by simp [same], Continues.refl L⟩

theorem keptSetBell (s : State) (i : Nat) (change : Listener.Bell → Listener.Bell) :
    Kept s (s.setListener i fun L => { L with bell := change L.bell }) :=
  keptSetListener fun _ _ => ⟨rfl, rfl, rfl, id⟩

theorem keptSetQueue {s : State} {i : Nat} {L : Listener Routed} (found : s.listeners[i]? = some L)
    {queue : Listener.Queue Routed} (closed : L.queue.closed = true → queue.closed = true) :
    Kept s (s.setListener i ({ · with queue })) := by
  apply keptSetListener
  intro K again
  have same : L = K := Option.some.inj (found.symm.trans again)
  subst K
  exact ⟨rfl, rfl, rfl, closed⟩

/- Events of the registry, the close calls and the clock are quiet: they only add empty queues, close
queues and ring bells. -/
structure Quiet (s t : State) : Prop where
  setup : t.setup = s.setup
  workers : t.workers = s.workers
  accepts : t.accepts = s.accepts
  waiting : ∀ l, t.waiting l = s.waiting l
  kept : Kept s t

theorem Quiet.refl (s : State) : Quiet s s := ⟨rfl, rfl, rfl, fun _ => rfl, Kept.refl s⟩

theorem quietSame {s t : State} (setup : t.setup = s.setup) (workers : t.workers = s.workers)
    (accepts : t.accepts = s.accepts) (listeners : t.listeners = s.listeners) : Quiet s t := by
  refine ⟨setup, workers, accepts, fun l => ?_, fun l L found => ⟨L, ?_, Continues.refl L⟩⟩
  · rw [waiting, listeners, waiting]
  · rw [listeners, found]

theorem quietSetBell (s : State) (i : Nat) (change : Listener.Bell → Listener.Bell) :
    Quiet s (s.setListener i fun L => { L with bell := change L.bell }) := by
  refine ⟨rfl, rfl, rfl, fun l => ?_, keptSetBell s i change⟩
  apply waitingSetListener
  intro _
  rfl

theorem quietRingAll (s : State) (i : Nat) : Quiet s (s.ringAll i) := quietSetBell s i Listener.Bell.ringAll

theorem quietCloseQueue (s : State) (i : Nat) : Quiet s (s.closeQueue i).2 := by
  unfold closeQueue
  cases found : s.listeners[i]? with
  | none => exact Quiet.refl s
  | some L =>
    refine ⟨rfl, rfl, rfl, fun l => ?_, keptSetQueue found fun _ => rfl⟩
    dsimp only
    rw [waitingSetQueue found]
    split
    · subst l; exact (waitingOfListener found).symm
    · rfl

theorem quietNewListener (s : State) (registry : Registry) (key : Option Bytes) :
    Quiet s { s with registry, listeners := s.listeners ++ [s.newListener key] } := by
  refine ⟨rfl, rfl, rfl, fun l => ?_, fun l L found => ⟨L, ?_, Continues.refl L⟩⟩
  · simp only [waiting, List.getElem?_append]
    split
    · rfl
    · rename_i beyond
      rw [List.getElem?_eq_none (Nat.le_of_not_lt beyond), List.getElem?_singleton]
      split <;> rfl
  · exact (List.getElem?_append_left (List.getElem?_eq_some_iff.mp found).1).trans found

theorem quietRegister (s : State) (key : Bytes) : Quiet s (s.register key).2 := by
  unfold register
  dsimp only
  split
  · exact Quiet.refl s
  · exact quietNewListener s _ _

theorem quietRegisterDefault (s : State) : Quiet s s.registerDefault.2 := by
  unfold registerDefault
  dsimp only
  split
  · exact Quiet.refl s
  · exact quietNewListener s _ _

theorem quietUnregister (s : State) (key : Bytes) : Quiet s (s.unregister key).2 := by
  unfold unregister
  split <;> exact quietSame rfl rfl rfl rfl

theorem quietUnregisterDefault (s : State) : Quiet s s.unregisterDefault.2 := by
  unfold unregisterDefault
  split <;> exact quietSame rfl rfl rfl rfl

theorem quietListenerCloseStep (s : State) (i : Nat) : Quiet s (s.listenerCloseStep i) := by
  unfold listenerCloseStep
  split
  · rename_i listener _
    obtain ⟨setup, workers, accepts, waiting, kept⟩ := quietCloseQueue s listener
    exact ⟨setup, workers, accepts, waiting, kept⟩
  · rename_i listener _
    obtain ⟨setup, workers, accepts, waiting, kept⟩ := quietRingAll s listener
    exact ⟨setup, workers, accepts, waiting, kept⟩
  · exact Quiet.refl s

theorem quietCloseAdvance (s : State) (stage : CloseStage) : Quiet s (s.closeAdvance stage).2 := by
  cases stage with
  | swapping => unfold closeAdvance; dsimp only; split <;> exact quietSame rfl rfl rfl rfl
  | taking => unfold closeAdvance; dsimp only; split <;> exact quietSame rfl rfl rfl rfl
  | closing left =>
    cases left with
    | nil => exact Quiet.refl s
    | cons listener left => exact quietCloseQueue s listener
  | ringing listener left => exact quietRingAll s listener
  | signalling | closingSource | draining | returned => exact quietSame rfl rfl rfl rfl

theorem quietCloseStep (s : State) (i : Nat) : Quiet s (s.closeStep i) := by
  unfold closeStep
  split
  · exact Quiet.refl s
  · rename_i stage _
    obtain ⟨setup, workers, accepts, waiting, kept⟩ := quietCloseAdvance s stage
    exact ⟨setup, workers, accepts, waiting, kept⟩

theorem quietAcceptFailed (s : State) (i : Nat) (e : Error) : Quiet s (s.acceptFailed i e) := by
  unfold acceptFailed
  split
  · split <;> exact quietSame rfl rfl rfl rfl
  · exact Quiet.refl s

/- Steps of a serve call and its cancellation leave queues and accept calls alone; at most they drop
the workers that still read for it. -/
structure Shed (s t : State) : Prop where
  setup : t.setup = s.setup
  accepts : t.accepts = s.accepts
  waiting : ∀ l, t.waiting l = s.waiting l
  kept : Kept s t
  workers : t.workers = s.workers ∨ ∃ owner, t.workers = (s.abortWorkers owner).workers

theorem Quiet.shed {s t : State} (quiet : Quiet s t) : Shed s t :=
  ⟨quiet.setup, quiet.accepts, quiet.waiting, quiet.kept, .inl quiet.workers⟩

theorem shedDropped {s t : State} {owner : Nat} (setup : t.setup = s.setup) (accepts : t.accepts = s.accepts)
    (listeners : t.listeners = s.listeners) (dropped : t.workers = (s.abortWorkers owner).workers) : Shed s t := by
  obtain ⟨_, _, _, waiting, kept⟩ := quietSame (s := s) (t := { t with workers := s.workers }) setup rfl accepts listeners
  exact ⟨setup, accepts, waiting, kept, .inr ⟨owner, dropped⟩⟩

theorem shedServeStep (s : State) (i : Nat) : Shed s (s.serveStep i) := by
  have still : ∀ {t : State}, Quiet s t → Shed s t := Quiet.shed
  unfold serveStep
  split
  · split <;> exact still (quietSame rfl rfl rfl rfl)
  · exact still (quietSame rfl rfl rfl rfl)
  · exact still (quietSame rfl rfl rfl rfl)
  · split <;> exact still (quietSame rfl rfl rfl rfl)
  · split <;> exact still (quietSame rfl rfl rfl rfl)
  · exact still (quietSame rfl rfl rfl rfl)
  · exact still (quietSame rfl rfl rfl rfl)
  · rename_i stage result _ _
    obtain ⟨setup, workers, accepts, waiting, kept⟩ := quietCloseAdvance s stage
    exact still ⟨setup, workers, accepts, waiting, kept⟩
  · dsimp only
    split <;> exact shedDropped rfl rfl rfl rfl
  · exact still (Quiet.refl s)

theorem shedCancelServe (s : State) (i : Nat) : Shed s (s.cancelServe i) := by
  unfold cancelServe
  split
  · exact Quiet.shed (quietSame rfl rfl rfl rfl)
  · exact shedDropped rfl rfl rfl rfl
  · exact shedDropped rfl rfl rfl rfl
  · exact Quiet.shed (Quiet.refl s)

end SharedPort.Selector.State
