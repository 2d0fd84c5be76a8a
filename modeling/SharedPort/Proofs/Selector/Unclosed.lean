import SharedPort.Proofs.Selector.Ownership

/-! A selector while nobody closes it. Calls and workers go on, the registry and the queues stay as they were made, and
each kind of event touches few parts of the state. -/
namespace SharedPort.Selector

def ServeStage.isOpen : ServeStage → Bool
  | .taking | .withoutSource | .subscribing | .checking _ | .looping _ | .returned (.error _) => true
  | _ => false

namespace State

structure Unclosed (s : State) : Prop where
  closed : s.closed = false
  signals : s.signals = 0
  serves : ∀ stage ∈ s.serves, stage.isOpen = true
  queues : ∀ L ∈ s.listeners, L.queue.closed = false

/- What happens to a selector that is neither registered with nor closed. -/
def Event.spares : Event → Bool
  | .beginServe | .serveStep _ | .accepted .. | .workerRead .. | .workerTimeout _ | .workerStep _ | .beginAccept _
  | .acceptStep _ | .cancelAccept _ | .advance _ => true
  | .acceptFailed _ (.io cause) => cause.isTransient
  | _ => false

theorem serveStepTouches {s : State} (unclosed : s.Unclosed) (i : Nat) :
    ∃ parked serves, s.serveStep i = { s with parked, serves } ∧ ∀ stage ∈ serves, stage.isOpen = true := by
  have set : ∀ {stage : ServeStage}, stage.isOpen = true → ∀ other ∈ s.serves.set i stage, other.isOpen = true := by
    intro stage isOpen other member
    rcases List.mem_or_eq_of_mem_set member with old | new
    · exact unclosed.serves other old
    · rw [new, isOpen]
  have still : ∃ parked serves, s = { s with parked, serves } ∧ ∀ stage ∈ serves, stage.isOpen = true :=
    ⟨s.parked, s.serves, rfl, unclosed.serves⟩
  have notClosed : ¬ s.closed = true := by
    rw [unclosed.closed]
    exact Bool.false_ne_true
  unfold serveStep
  cases found : s.serves[i]? with
  | none => exact still
  | some stage =>
    have isOpen := unclosed.serves stage (List.mem_of_getElem? found)
    cases stage with
    | taking =>
      dsimp only
      split
      · exact ⟨_, _, rfl, set rfl⟩
      · exact ⟨_, _, rfl, set rfl⟩
    | withoutSource =>
      have answer : ServeStage.isOpen (.returned (.error .alreadyServing)) = true := rfl
      simp only [if_neg notClosed]
      exact ⟨_, _, rfl, set answer⟩
    | subscribing => exact ⟨_, _, rfl, set rfl⟩
    | checking seen =>
      have loops : ServeStage.isOpen (.looping seen) = true := rfl
      simp only [if_neg notClosed]
      exact ⟨_, _, rfl, set loops⟩
    | looping seen =>
      have never : ¬ seen < s.signals := by
        rw [unclosed.signals]
        exact Nat.not_lt_zero seen
      simp only [if_neg never]
      exact still
    | returned result => exact still
    | closingSource | closing | aborting | cancelled => cases isOpen

theorem acceptFailedStill (s : State) (i : Nat) {cause : IoError} (passing : cause.isTransient = true) :
    s.acceptFailed i (.io cause) = s := by
  simp [acceptFailed, endOfLoop, passing]

theorem workerStepTouches (s : State) (i : Nat) :
    ∃ workers counts listeners, s.workerStep i = { s with workers, counts, listeners } := by
  unfold workerStep
  split
  · split <;> exact ⟨_, _, _, rfl⟩
  · unfold deliver
    split
    · exact ⟨_, _, _, rfl⟩
    · split <;> exact ⟨_, _, _, rfl⟩
  · exact ⟨_, _, _, rfl⟩
  · exact ⟨_, _, _, rfl⟩

theorem acceptStepTouches (s : State) (call : Nat) :
    ∃ accepts listeners, s.acceptStep call = { s with accepts, listeners } := by
  unfold acceptStep
  split
  · exact ⟨_, _, rfl⟩
  · exact ⟨_, _, rfl⟩
  · split
    · exact ⟨_, _, rfl⟩
    · split <;> exact ⟨_, _, rfl⟩
  · exact ⟨_, _, rfl⟩
  · split <;> exact ⟨_, _, rfl⟩
  · exact ⟨_, _, rfl⟩

theorem cancelAcceptTouches (s : State) (call : Nat) :
    ∃ accepts listeners, s.cancelAccept call = { s with accepts, listeners } := by
  unfold cancelAccept
  split <;> exact ⟨_, _, rfl⟩

theorem openSetListener {s : State} {i : Nat} {change : Listener Routed → Listener Routed}
    (queues : ∀ L ∈ s.listeners, L.queue.closed = false)
    (keeps : ∀ L, L.queue.closed = false → (change L).queue.closed = false) :
    ∀ L ∈ (s.setListener i change).listeners, L.queue.closed = false := by
  intro L member
  obtain ⟨k, found⟩ := List.getElem?_of_mem member
  simp only [setListener, List.getElem?_modify] at found
  cases present : s.listeners[k]? with
  | none =>
    rw [present] at found
    cases found
  | some K =>
    have before := queues K (List.mem_of_getElem? present)
    rw [present] at found
    by_cases here : i = k
    · simp only [here, if_true, Option.map_eq_map, Option.map_some] at found
      obtain rfl := Option.some.inj found
      exact keeps K before
    · simp only [here, if_false, Option.map_eq_map, Option.map_some] at found
      obtain rfl := Option.some.inj found
      exact before

theorem openDeliver {s : State} (queues : ∀ L ∈ s.listeners, L.queue.closed = false) (i : Nat) (arrival : Arrival)
    (header : Bytes) (l : Nat) : ∀ L ∈ (s.deliver i arrival header l).listeners, L.queue.closed = false := by
  unfold deliver
  cases target : s.listeners[l]? with
  | none => exact queues
  | some L =>
    have isOpen := queues L (List.mem_of_getElem? target)
    simp only [Listener.Queue.push, isOpen, Bool.false_eq_true, if_false]
    by_cases full : L.queue.isFull L.capacity
    · rw [if_pos full]
      exact queues
    · rw [if_neg full]
      exact openSetListener queues fun _ _ => rfl

theorem openWorkerStep {s : State} (queues : ∀ L ∈ s.listeners, L.queue.closed = false) (i : Nat) :
    ∀ L ∈ (s.workerStep i).listeners, L.queue.closed = false := by
  unfold workerStep
  split
  · split <;> exact queues
  · exact openDeliver queues i _ _ _
  · exact openSetListener queues fun _ isOpen => isOpen
  · exact queues

theorem openAcceptStep {s : State} (queues : ∀ L ∈ s.listeners, L.queue.closed = false) (call : Nat) :
    ∀ L ∈ (s.acceptStep call).listeners, L.queue.closed = false := by
  unfold acceptStep
  split
  · exact openSetListener queues fun _ isOpen => isOpen
  · exact openSetListener queues fun _ isOpen => isOpen
  · rename_i l _
    cases target : s.listeners[l]? with
    | none => exact queues
    | some L =>
      have isOpen := queues L (List.mem_of_getElem? target)
      simp only [Listener.Queue.pop]
      cases items : L.queue.items with
      | nil =>
        simp only [isOpen, Bool.false_eq_true, if_false]
        exact queues
      | cons routed rest => exact openSetListener queues fun _ _ => isOpen
  · exact openSetListener queues fun _ isOpen => isOpen
  · split
    · exact openSetListener queues fun _ isOpen => isOpen
    · exact queues
  · exact queues

theorem openCancelAccept {s : State} (queues : ∀ L ∈ s.listeners, L.queue.closed = false) (call : Nat) :
    ∀ L ∈ (s.cancelAccept call).listeners, L.queue.closed = false := by
  unfold cancelAccept
  split
  · exact queues
  · exact openSetListener queues fun _ isOpen => isOpen
  · exact queues

structure Spared (s t : State) : Prop where
  unclosed : t.Unclosed
  setup : t.setup = s.setup
  registry : t.registry = s.registry
  clock : s.now ≤ t.now

theorem sparedApply {s : State} {e : Event} (unclosed : s.Unclosed) (spares : e.spares = true) :
    Spared s (s.apply e) := by
  have ⟨closed, signals, serves, queues⟩ := unclosed
  cases e with
  | beginServe =>
    refine ⟨⟨closed, signals, fun stage member => ?_, queues⟩, rfl, rfl, Nat.le_refl _⟩
    rcases List.mem_append.mp member with old | new
    · exact serves stage old
    · rw [List.mem_singleton.mp new]
      rfl
  | serveStep i =>
    obtain ⟨parked, stages, frame, isOpen⟩ := serveStepTouches unclosed i
    simp only [apply, frame]
    exact ⟨⟨closed, signals, isOpen, queues⟩, rfl, rfl, Nat.le_refl _⟩
  | accepted call arrival =>
    obtain ⟨workers, counts, frame⟩ := acceptedFrame s call arrival
    simp only [apply, frame]
    exact ⟨⟨closed, signals, serves, queues⟩, rfl, rfl, Nat.le_refl _⟩
  | acceptFailed call cause =>
    cases cause with
    | io cause =>
      simp only [apply, acceptFailedStill s call spares]
      exact ⟨unclosed, rfl, rfl, Nat.le_refl _⟩
    | _ => cases spares
  | workerRead i attempt =>
    obtain ⟨workers, counts, frame⟩ := workerReadFrame s i attempt
    simp only [apply, frame]
    exact ⟨⟨closed, signals, serves, queues⟩, rfl, rfl, Nat.le_refl _⟩
  | workerTimeout i =>
    obtain ⟨workers, counts, frame⟩ := workerTimeoutFrame s i
    simp only [apply, frame]
    exact ⟨⟨closed, signals, serves, queues⟩, rfl, rfl, Nat.le_refl _⟩
  | workerStep i =>
    obtain ⟨workers, counts, listeners, frame⟩ := workerStepTouches s i
    have still := openWorkerStep queues i
    simp only [apply, frame] at still ⊢
    exact ⟨⟨closed, signals, serves, still⟩, rfl, rfl, Nat.le_refl _⟩
  | beginAccept l => exact ⟨⟨closed, signals, serves, queues⟩, rfl, rfl, Nat.le_refl _⟩
  | acceptStep call =>
    obtain ⟨accepts, listeners, frame⟩ := acceptStepTouches s call
    have still := openAcceptStep queues call
    simp only [apply, frame] at still ⊢
    exact ⟨⟨closed, signals, serves, still⟩, rfl, rfl, Nat.le_refl _⟩
  | cancelAccept call =>
    obtain ⟨accepts, listeners, frame⟩ := cancelAcceptTouches s call
    have still := openCancelAccept queues call
    simp only [apply, frame] at still ⊢
    exact ⟨⟨closed, signals, serves, still⟩, rfl, rfl, Nat.le_refl _⟩
  | advance length => exact ⟨⟨closed, signals, serves, queues⟩, rfl, rfl, Nat.le_add_right _ _⟩
  | register | registerDefault | unregister | unregisterDefault | beginListenerClose | listenerCloseStep | beginClose
  | closeStep | cancelServe => cases spares

theorem workersApply {s : State} {e : Event} (unclosed : s.Unclosed) (spares : e.spares = true) (idle : s.joins e = [])
    (others : ∀ i attempt, e ≠ .workerRead i attempt ∧ e ≠ .workerTimeout i ∧ e ≠ .workerStep i) :
    (s.apply e).workers = s.workers := by
  cases e with
  | beginServe | beginAccept | advance => rfl
  | serveStep i =>
    obtain ⟨parked, serves, frame, _⟩ := serveStepTouches unclosed i
    simp only [apply, frame]
  | accepted call arrival =>
    simp only [apply, workersAccepted, idle, List.append_nil]
  | acceptFailed call cause =>
    cases cause with
    | io cause => simp only [apply, acceptFailedStill s call spares]
    | _ => cases spares
  | workerRead i attempt => exact ((others i attempt).1 rfl).elim
  | workerTimeout i => exact ((others i (.done [])).2.1 rfl).elim
  | workerStep i => exact ((others i (.done [])).2.2 rfl).elim
  | acceptStep call =>
    obtain ⟨accepts, listeners, frame⟩ := acceptStepTouches s call
    simp only [apply, frame]
  | cancelAccept call =>
    obtain ⟨accepts, listeners, frame⟩ := cancelAcceptTouches s call
    simp only [apply, frame]
  | register | registerDefault | unregister | unregisterDefault | beginListenerClose | listenerCloseStep | beginClose
  | closeStep | cancelServe => cases spares

theorem callsApply {s : State} {e : Event} (unclosed : s.Unclosed) (spares : e.spares = true)
    (others : ∀ n, e ≠ .workerStep n ∧ e ≠ .beginAccept n ∧ e ≠ .acceptStep n ∧ e ≠ .cancelAccept n) :
    (s.apply e).accepts = s.accepts ∧ (s.apply e).listeners = s.listeners := by
  cases e with
  | beginServe | advance => exact ⟨rfl, rfl⟩
  | serveStep i =>
    obtain ⟨parked, serves, frame, _⟩ := serveStepTouches unclosed i
    simp only [apply, frame, and_self]
  | accepted call arrival =>
    obtain ⟨workers, counts, frame⟩ := acceptedFrame s call arrival
    simp only [apply, frame, and_self]
  | acceptFailed call cause =>
    cases cause with
    | io cause => simp only [apply, acceptFailedStill s call spares, and_self]
    | _ => cases spares
  | workerRead i attempt =>
    obtain ⟨workers, counts, frame⟩ := workerReadFrame s i attempt
    simp only [apply, frame, and_self]
  | workerTimeout i =>
    obtain ⟨workers, counts, frame⟩ := workerTimeoutFrame s i
    simp only [apply, frame, and_self]
  | workerStep n => exact ((others n).1 rfl).elim
  | beginAccept n => exact ((others n).2.1 rfl).elim
  | acceptStep n => exact ((others n).2.2.1 rfl).elim
  | cancelAccept n => exact ((others n).2.2.2 rfl).elim
  | register | registerDefault | unregister | unregisterDefault | beginListenerClose | listenerCloseStep | beginClose
  | closeStep | cancelServe => cases spares

def Event.isClosing : Event → Bool
  | .closeStep _ | .serveStep _ => true
  | _ => false

def Event.isRegistering : Event → Bool
  | .register _ | .registerDefault | .unregister _ | .unregisterDefault => true
  | _ => false

def Event.isCalling : Event → Bool
  | .beginClose | .closeStep _ | .beginServe | .serveStep _ | .acceptFailed .. | .cancelServe _ => true
  | _ => false

def Event.isTraffic : Event → Bool
  | .accepted .. | .workerRead .. | .workerTimeout _ | .workerStep _ | .beginAccept _ | .acceptStep _ | .cancelAccept _
  | .advance _ => true
  | .register _ | .registerDefault | .unregister _ | .unregisterDefault | .beginListenerClose _ | .listenerCloseStep _
  | .beginClose | .closeStep _ | .beginServe | .serveStep _ | .acceptFailed .. | .cancelServe _ => false

/- What an event leaves that belongs to no close. -/
structure Untouched (s t : State) (registering : Bool) : Prop where
  signals : t.signals = s.signals
  closed : t.closed = s.closed
  registry : registering = false → t.registry = s.registry

structure Uncalled (s t : State) (registering : Bool) : Prop extends Untouched s t registering where
  parked : t.parked = s.parked
  source : t.source = s.source
  serves : t.serves = s.serves
  closes : t.closes = s.closes

structure Unmoved (s t : State) : Prop extends Uncalled s t false where
  each : t.listenerCloses = s.listenerCloses

theorem trafficUnmoved (s : State) {e : Event} (traffic : e.isTraffic = true) : Unmoved s (s.apply e) := by
  have still (now : Nat) (listeners : List (Listener Routed)) (workers : List Worker) (accepts : List Accept)
      (counts : Counts) : Unmoved s { s with now, listeners, workers, accepts, counts } :=
    ⟨⟨⟨rfl, rfl, fun _ => rfl⟩, rfl, rfl, rfl, rfl⟩, rfl⟩
  cases e with
  | accepted call arrival =>
    obtain ⟨workers, counts, frame⟩ := acceptedFrame s call arrival
    rw [apply, frame]
    apply still
  | workerRead i attempt =>
    obtain ⟨workers, counts, frame⟩ := workerReadFrame s i attempt
    rw [apply, frame]
    apply still
  | workerTimeout i =>
    obtain ⟨workers, counts, frame⟩ := workerTimeoutFrame s i
    rw [apply, frame]
    apply still
  | workerStep i =>
    obtain ⟨workers, counts, listeners, frame⟩ := workerStepTouches s i
    rw [apply, frame]
    apply still
  | acceptStep call =>
    obtain ⟨accepts, listeners, frame⟩ := acceptStepTouches s call
    rw [apply, frame]
    apply still
  | cancelAccept call =>
    obtain ⟨accepts, listeners, frame⟩ := cancelAcceptTouches s call
    rw [apply, frame]
    apply still
  | beginAccept | advance => apply still
  | register | registerDefault | unregister | unregisterDefault | beginListenerClose | listenerCloseStep | beginClose
  | closeStep | beginServe | serveStep | acceptFailed | cancelServe => cases traffic

theorem uncalled (s : State) {e : Event} (other : e.isCalling = false) : Uncalled s (s.apply e) e.isRegistering := by
  have listed (registry : Registry) (listeners : List (Listener Routed)) (listenerCloses : List ListenerClose) :
      Uncalled s { s with registry, listeners, listenerCloses } true :=
    ⟨⟨rfl, rfl, nofun⟩, rfl, rfl, rfl, rfl⟩
  have shut (listeners : List (Listener Routed)) (listenerCloses : List ListenerClose) :
      Uncalled s { s with listeners, listenerCloses } false :=
    ⟨⟨rfl, rfl, fun _ => rfl⟩, rfl, rfl, rfl, rfl⟩
  cases traffic : e.isTraffic with
  | true =>
    have unmoved := (trafficUnmoved s traffic).toUncalled
    exact ⟨⟨unmoved.signals, unmoved.closed, fun _ => unmoved.registry rfl⟩, unmoved.parked, unmoved.source,
      unmoved.serves, unmoved.closes⟩
  | false =>
    cases e with
    | register key =>
      change Uncalled s (s.register key).2 true
      unfold register
      dsimp only
      split <;> apply listed
    | registerDefault =>
      change Uncalled s s.registerDefault.2 true
      unfold registerDefault
      dsimp only
      split <;> apply listed
    | unregister key =>
      change Uncalled s (s.unregister key).2 true
      unfold unregister
      split <;> apply listed
    | unregisterDefault =>
      change Uncalled s s.unregisterDefault.2 true
      unfold unregisterDefault
      split <;> apply listed
    | beginListenerClose => apply shut
    | listenerCloseStep i =>
      change Uncalled s (s.listenerCloseStep i) false
      unfold listenerCloseStep closeQueue
      split
      · dsimp only
        split <;> apply shut
      · apply shut
      · apply shut
    | beginClose | closeStep | beginServe | serveStep | acceptFailed | cancelServe => cases other
    | accepted | workerRead | workerTimeout | workerStep | beginAccept | acceptStep | cancelAccept | advance =>
      cases traffic

theorem untouched {s : State} {e : Event} (other : e.isClosing = false) : Untouched s (s.apply e) e.isRegistering := by
  cases calling : e.isCalling with
  | false => exact (uncalled s calling).toUntouched
  | true =>
    cases e with
    | closeStep | serveStep => cases other
    | beginClose | beginServe => exact ⟨rfl, rfl, fun _ => rfl⟩
    | acceptFailed i cause =>
      change Untouched s (s.acceptFailed i cause) false
      unfold acceptFailed
      split
      · split <;> exact ⟨rfl, rfl, fun _ => rfl⟩
      · exact ⟨rfl, rfl, fun _ => rfl⟩
    | cancelServe i =>
      change Untouched s (s.cancelServe i) false
      unfold cancelServe
      split <;> exact ⟨rfl, rfl, fun _ => rfl⟩
    | _ => cases calling

end State
end SharedPort.Selector
