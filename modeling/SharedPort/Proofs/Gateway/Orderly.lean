import SharedPort.Proofs.Gateway.Assembly
import SharedPort.Proofs.Gateway.Contacts

/-! All that holds at every moment of a gateway's run, from the moment it was assembled. No loop sleeps through a
delivery: while something waits for it, one of the workers is about to ring. -/
namespace SharedPort.Gateway
open SharedPort.Selector (State Routed Worker WorkerStage Waiter)

def Rings (w : World) (l i : Nat) : Prop := ∃ u, w.selector.workers[i]? = some u ∧ u.stage = .ringing l

def Heard (w : World) : Prop :=
  ∀ (l : Nat) (v : Serving), w.loops[l]? = some v → w.selector.WaiterAt l v.waiting (some (.sleeping .waiting)) →
    w.selector.waiting l = [] ∨ ∃ i, Rings w l i

theorem ringsTurn {g : Gateway} {w : World} {l i : Nat} (sound : Sound g w) (rings : Rings w l i) (t : Turn) :
    Rings (w.turn t) l i ∨ t = .route i := by
  obtain ⟨u, worker, stage⟩ := rings
  obtain ⟨next, worker', turn⟩ := workerTurn sound t worker
  rw [stage] at turn
  cases turn with
  | rest => exact .inl ⟨_, worker', rfl⟩
  | rung event => exact .inr event

/- A call that sleeps had slept before, or it has just looked into an empty queue. -/
theorem sleepsTurn {w w' : World} {t : Turn} {l : Nat} {v v' : Serving} {x : Option Waiter}
    (turn : LoopTurn w w' t l v v' x (some (.sleeping .waiting))) :
    x = some (.sleeping .waiting) ∨ w'.selector.waiting l = [] := by
  generalize asleep : some (Waiter.sleeping .waiting) = y at turn
  cases turn with
  | rest | noted => exact .inl rfl
  | rung =>
    cases x with
    | none => cases asleep
    | some x =>
      cases x with
      | looking ticket | leaving _ ticket | begun | entering | returned => cases asleep
      | sleeping ticket => cases ticket <;> cases asleep
  | listened | taken | joined => cases asleep
  | stepped _ _ move =>
    cases move with
    | slept drained same => exact .inr (same.trans drained)
    | sleeps => exact .inl rfl
    | entered | popped | woken | left | stays => cases asleep

theorem heardTurn {g : Gateway} {w : World} (sound : Sound g w) (heard : Heard w) (t : Turn) : Heard (w.turn t) := by
  intro l v' loop' asleep
  obtain ⟨v, x, y, loop, waiter, waiter', turn⟩ := loopBefore sound loop'
  cases waiter'.unique asleep
  rcases sleepsTurn turn with rfl | drained
  · rcases heard l v loop waiter with empty | ⟨i, rings⟩
    · cases queueTurn sound t l with
      | still same => exact .inl (same.trans empty)
      | pushed _ _ _ rings => exact .inr ⟨_, _, rings, rfl⟩
      | popped _ _ _ waits =>
        rw [empty] at waits
        cases waits
    · rcases ringsTurn sound rings t with still | rfl
      · exact .inr ⟨i, still⟩
      · obtain ⟨r, worker, stage⟩ := rings
        have same : v'.waiting = v.waiting := by
          rcases turn.waiting with same | idle | begun
          · exact same
          · cases idle
          · cases begun
        rw [same] at asleep
        cases (rungLoop worker stage waiter).unique asleep
  · exact .inl drained

structure Orderly (g : Gateway) (w : World) : Prop where
  sound : Sound g w
  tended : AllTended g w
  carried : AllCarried g w
  balanced : Balanced w
  ledgers : ∀ l v, w.loops[l]? = some v → ∃ calls, Ledger w l v calls
  heard : Heard w

theorem orderlyTurn {g : Gateway} {w : World} (ready : Ready g) (orderly : Orderly g w) (t : Turn) :
    Orderly g (w.turn t) := by
  obtain ⟨sound, tended, carried, balanced, ledgers, heard⟩ := orderly
  refine ⟨soundTurn sound t, allTendedTurn ready sound tended t, allCarriedTurn sound tended carried t,
    balancedTurn balanced t, fun l v' loop' => ?_, heardTurn sound heard t⟩
  obtain ⟨v, x, y, loop, waiter, waiter', turn⟩ := loopBefore sound loop'
  obtain ⟨calls, ledger⟩ := ledgers l v loop
  exact ledgerTurn ledger (sound.loops l v loop).serving waiter waiter' turn

theorem orderlyAfter {g : Gateway} {w : World} (ready : Ready g) (orderly : Orderly g w) (turns : Nat → Turn)
    (n : Nat) : Orderly g (w.after turns n) :=
  keptLater (p := Orderly g) (fun n before => orderlyTurn ready before (turns n)) (Nat.zero_le n) orderly

variable {setup : Selector.Setup} {options : Forward.Options} {routes : List RouteConfig} {unmatched : Option String}

theorem listenerFresh {l : Nat} {L : Listener Routed}
    (found : (World.start (assembled setup options routes unmatched)).selector.listeners[l]? = some L) :
    L.queue = {} ∧ L.bell = {} := by
  simp only [World.start, assembled, listenersFor, List.getElem?_map] at found
  obtain ⟨key, _, rfl⟩ := Option.map_eq_some_iff.mp found
  exact ⟨rfl, rfl⟩

theorem startFresh (l : Nat) : (World.start (assembled setup options routes unmatched)).selector.waiting l = [] ∧
    (World.start (assembled setup options routes unmatched)).selector.tickets l = [] := by
  unfold State.waiting State.tickets
  cases found : (World.start (assembled setup options routes unmatched)).selector.listeners[l]? with
  | none => exact ⟨rfl, rfl⟩
  | some L =>
    obtain ⟨queue, bell⟩ := listenerFresh found
    simp only [Option.map_some, Option.getD_some, queue, bell]
    exact ⟨trivial, trivial⟩

theorem startLoop {l : Nat} {v : Serving}
    (loop : (World.start (assembled setup options routes unmatched)).loops[l]? = some v) :
    ∃ target, (Config.targets routes unmatched)[l]? = some target ∧ v = { listener := l, loop := { target } } := by
  simp only [World.start, assembled, List.getElem?_map, List.getElem?_mapIdx] at loop
  obtain ⟨route, found, rfl⟩ := Option.map_eq_some_iff.mp loop
  obtain ⟨target, here, rfl⟩ := Option.map_eq_some_iff.mp found
  exact ⟨target, here, rfl⟩

theorem startWorkers (i : Nat) (v : Worker) :
    (World.start (assembled setup options routes unmatched)).selector.workers[i]? ≠ some v := by
  simp only [World.start, assembled, List.getElem?_nil]
  rintro ⟨⟩

theorem startSound : Sound (assembled setup options routes unmatched)
    (World.start (assembled setup options routes unmatched)) := by
  refine ⟨⟨rfl, rfl, fun _ => List.not_mem_nil.elim, fun L member => ?_⟩, rfl, rfl, ?_,
    fun i v found => (startWorkers i v found).elim, rfl, fun l v loop => ?_⟩
  · obtain ⟨l, found⟩ := List.getElem?_of_mem member
    rw [(listenerFresh found).1]
  · simp only [World.start, assembled, listenersFor, List.length_map, List.length_mapIdx, Config.targetsLength]
    exact Nat.le_refl _
  · obtain ⟨target, found, rfl⟩ := startLoop loop
    refine ⟨rfl, ?_, rfl, none, .idle (startFresh l).2⟩
    simp only [assembled, List.getElem?_mapIdx, found, Option.map_some]

theorem startPlaces : (World.start (assembled setup options routes unmatched)).selector.places = [] := by
  refine List.eq_nil_iff_forall_not_mem.mpr fun ⟨p, c⟩ member => ?_
  have held := State.memPlaces.mp member
  cases p with
  | worker i | dropped i =>
    obtain ⟨_, found, _⟩ := held
    cases found
  | slot l k =>
    obtain ⟨_, found, _⟩ := held
    rw [(startFresh l).1] at found
    cases found
  | call l i =>
    obtain ⟨_, _, found, _⟩ := held
    cases found

theorem startOrderly : Orderly (assembled setup options routes unmatched)
    (World.start (assembled setup options routes unmatched)) := by
  have nothing : ∀ {l : Nat} {v : Serving},
      (World.start (assembled setup options routes unmatched)).loops[l]? = some v →
      v.waiting = none ∧ connections v = [] := by
    intro l v loop
    obtain ⟨_, _, rfl⟩ := startLoop loop
    exact ⟨rfl, rfl⟩
  refine ⟨startSound, fun i v _ found => (startWorkers i v found).elim,
    ⟨fun l routed member => ?_, fun l v x routed loop waiter => ?_, fun l v loop => ?_⟩, ?_,
    fun l v loop => ⟨[], List.nodup_nil, nofun, ?_, ?_⟩, fun l v loop asleep => ?_⟩
  · exact (List.not_mem_nil ((startFresh l).1 ▸ member)).elim
  · rw [(nothing loop).1] at waiter
    cases waiter
  · rw [(nothing loop).2]
    exact nofun
  · unfold Balanced
    rw [startPlaces]
    exact .refl _
  · rw [(nothing loop).2]
    rfl
  · rw [(nothing loop).2]
    exact nofun
  · rw [(nothing loop).1] at asleep
    cases asleep

/- All that is used of how a gateway was built. -/
structure Built (c : Config) (g : Gateway) : Prop where
  size : g.selector.setup.headerSize = c.headerSize.toNat
  ready : Ready g
  leads : ∀ p, (route g p).map (fun l => (g.routes[l]?).map Route.target) = (c.chosen p).map some
  start : Orderly g (World.start g)

theorem builtAssembled {c : Config} (rule : setup.rule = c.matchMode.rule) (size : setup.headerSize = c.headerSize.toNat)
    (positive : 0 < c.headerSize.toNat) : Built c (assembled setup options c.routes c.defaultTarget) := by
  have leads : ∀ p, (route (assembled setup options c.routes c.defaultTarget) p).map (fun l =>
      ((assembled setup options c.routes c.defaultTarget).routes[l]?).map Route.target) = (c.chosen p).map some := by
    intro p
    have paired : ∀ l : Nat, ((assembled setup options c.routes c.defaultTarget).routes[l]?).map Route.target =
        (Config.targets c.routes c.defaultTarget)[l]? := by
      intro l
      simp only [assembled, List.getElem?_mapIdx, Option.map_map, Function.comp_def, Option.map_id']
    simp only [paired]
    exact routesToChosen rule size p
  refine ⟨size, ⟨size ▸ positive, fun p l found => ?_⟩, leads, startOrderly⟩
  have way := leads p
  rw [found] at way
  obtain ⟨target, _, here⟩ := Option.map_eq_some_iff.mp way.symm
  obtain ⟨route, present, _⟩ := Option.map_eq_some_iff.mp here.symm
  exact (List.getElem?_eq_some_iff.mp present).1

theorem builtFrom {lookup : Resolver} {c : Config} {g : Gateway} (valid : c.validate.value = .ok ())
    (made : (ofConfig lookup c).value = .ok g) : Built c g := by
  cases socket : bound lookup c with
  | error e =>
    rw [ofConfig, socket] at made
    cases made
  | ok before =>
    obtain ⟨_, rule, size, _, positive⟩ := boundSetup socket
    rw [assembles valid socket] at made
    obtain rfl := Except.ok.inj made
    exact builtAssembled rule size positive

end SharedPort.Gateway
