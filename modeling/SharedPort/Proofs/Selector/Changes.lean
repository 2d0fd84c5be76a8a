import SharedPort.Proofs.Selector.Registration

/-! All that one event can change. The laws about runs of a selector use these cases and never look into the steps
themselves. -/
namespace SharedPort.Selector.State
open SharedPort.Stream (Attempt Replay)

inductive Effect (s : State) (e : Event) (t : State) : Prop where
  | calm (quiet : Quiet s t) (silent : ∀ i, s.chunk i e = []) (idle : s.joins e = [])
  | shed (shed : Shed s t) (silent : ∀ i, s.chunk i e = []) (idle : s.joins e = [])
  | joined (workers : t.workers = s.workers ++ s.joins e) (accepts : t.accepts = s.accepts)
      (waiting : ∀ l, t.waiting l = s.waiting l) (silent : ∀ i, s.chunk i e = [])
  | worked {i : Nat} {w : Worker} {stage : WorkerStage} (found : s.workers[i]? = some w)
      (stepped : Stepped s t i w stage) (move : WorkerMove s t i e w.stage stage) (accepts : t.accepts = s.accepts)
      (queue : QueueMove s e t) (silent : ∀ j, j ≠ i → s.chunk j e = []) (idle : s.joins e = [])
  | called {l : Nat} (accepts : t.accepts = s.accepts ++ [⟨l, .begun⟩]) (workers : t.workers = s.workers)
      (waiting : ∀ l, t.waiting l = s.waiting l) (silent : ∀ i, s.chunk i e = []) (idle : s.joins e = [])
  | looked {call : Nat} {a : Accept} {stage : AcceptStage} (found : s.accepts[call]? = some a)
      (next : t.accepts = (s.setAccept call stage).accepts) (move : AcceptMove s t call e a.listener a.stage stage)
      (workers : t.workers = s.workers) (queue : QueueMove s e t) (silent : ∀ i, s.chunk i e = [])
      (idle : s.joins e = [])

structure Change (s : State) (e : Event) (t : State) : Prop where
  setup : t.setup = s.setup
  kept : Kept s t
  registry : RegistryMove s e t
  effect : Effect s e t

theorem changeQuiet {s t : State} {e : Event} (quiet : Quiet s t) (registry : RegistryMove s e t)
    (silent : ∀ i, s.chunk i e = []) (idle : s.joins e = []) : Change s e t :=
  ⟨quiet.setup, quiet.kept, registry, .calm quiet silent idle⟩

theorem changeShed {s t : State} {e : Event} (shed : Shed s t) (registry : RegistryMove s e t)
    (silent : ∀ i, s.chunk i e = []) (idle : s.joins e = []) : Change s e t :=
  ⟨shed.setup, shed.kept, registry, .shed shed silent idle⟩

theorem changeSame (s : State) (e : Event) (silent : ∀ i, s.chunk i e = []) (idle : s.joins e = []) :
    Change s e s :=
  changeQuiet (Quiet.refl s) (.same rfl rfl) silent idle

theorem acceptedFrame (s : State) (call : Nat) (arrival : Arrival) :
    ∃ workers counts, s.accepted call arrival = { s with workers, counts } := by
  unfold accepted
  split <;> exact ⟨_, _, rfl⟩

theorem changeAccepted (s : State) (call : Nat) (arrival : Arrival) :
    Change s (.accepted call arrival) (s.accepted call arrival) := by
  have joined := workersAccepted s call arrival
  obtain ⟨workers, counts, frame⟩ := acceptedFrame s call arrival
  rw [frame] at joined ⊢
  exact ⟨rfl, keptOfListeners rfl, .same rfl rfl, .joined joined rfl (fun _ => rfl) fun _ => rfl⟩

theorem workerReadFrame (s : State) (i : Nat) (attempt : Attempt Bytes) :
    ∃ workers counts, s.workerRead i attempt = { s with workers, counts } := by
  unfold workerRead
  split
  · split
    · split <;> exact ⟨_, _, rfl⟩
    · exact ⟨_, _, rfl⟩
  · exact ⟨_, _, rfl⟩

theorem changeWorkerRead (s : State) (i : Nat) (attempt : Attempt Bytes) :
    Change s (.workerRead i attempt) (s.workerRead i attempt) := by
  cases found : s.workers[i]? with
  | none =>
    rw [noWorkerRead found]
    refine changeSame s _ (fun j => ?_) rfl
    cases attempt with
    | done bytes => simp only [chunk, found]
    | failed | notReady => rfl
  | some w =>
    obtain ⟨stage, stepped, move⟩ := readMove found attempt
    obtain ⟨workers, counts, frame⟩ := workerReadFrame s i attempt
    rw [frame] at stepped move ⊢
    exact ⟨rfl, keptOfListeners rfl, .same rfl rfl,
      .worked found stepped move rfl (.still fun _ => rfl) (fun j other => silentOther attempt other) rfl⟩

theorem workerTimeoutFrame (s : State) (i : Nat) :
    ∃ workers counts, s.workerTimeout i = { s with workers, counts } := by
  unfold workerTimeout
  split <;> exact ⟨_, _, rfl⟩

theorem changeWorkerTimeout (s : State) (i : Nat) : Change s (.workerTimeout i) (s.workerTimeout i) := by
  cases found : s.workers[i]? with
  | none =>
    rw [noWorkerTimeout found]
    exact changeSame s _ (fun _ => rfl) rfl
  | some w =>
    obtain ⟨stage, stepped, move⟩ := timeoutMove found
    obtain ⟨workers, counts, frame⟩ := workerTimeoutFrame s i
    rw [frame] at stepped move ⊢
    exact ⟨rfl, keptOfListeners rfl, .same rfl rfl,
      .worked found stepped move rfl (.still fun _ => rfl) (fun _ _ => rfl) rfl⟩

theorem workerStepFrame (s : State) (i : Nat) :
    (s.workerStep i).setup = s.setup ∧ (s.workerStep i).accepts = s.accepts := by
  unfold workerStep
  split
  · split <;> exact ⟨rfl, rfl⟩
  · unfold deliver
    split
    · exact ⟨rfl, rfl⟩
    · split <;> exact ⟨rfl, rfl⟩
  · exact ⟨rfl, rfl⟩
  · exact ⟨rfl, rfl⟩

theorem changeWorkerStep (s : State) (i : Nat) : Change s (.workerStep i) (s.workerStep i) := by
  cases found : s.workers[i]? with
  | none =>
    rw [noWorkerStep found]
    exact changeSame s _ (fun _ => rfl) rfl
  | some w =>
    obtain ⟨stage, stepped, move⟩ := ownStepMove found
    obtain ⟨setup, accepts⟩ := workerStepFrame s i
    exact ⟨setup, keptWorkerStep s i, registryWorkerStep s _ i,
      .worked found stepped move accepts (queueWorkerStep s i) (fun _ _ => rfl) rfl⟩

theorem acceptStepFrame (s : State) (call : Nat) :
    (s.acceptStep call).setup = s.setup ∧ (s.acceptStep call).workers = s.workers := by
  unfold acceptStep
  split
  · exact ⟨rfl, rfl⟩
  · exact ⟨rfl, rfl⟩
  · split
    · exact ⟨rfl, rfl⟩
    · split <;> exact ⟨rfl, rfl⟩
  · exact ⟨rfl, rfl⟩
  · split <;> exact ⟨rfl, rfl⟩
  · exact ⟨rfl, rfl⟩

theorem changeAcceptStep (s : State) (call : Nat) : Change s (.acceptStep call) (s.acceptStep call) := by
  cases found : s.accepts[call]? with
  | none =>
    have same : s.acceptStep call = s := by simp only [acceptStep, found]
    rw [same]
    exact changeSame s _ (fun _ => rfl) rfl
  | some a =>
    obtain ⟨stage, next, move⟩ := acceptStepMove found
    obtain ⟨setup, workers⟩ := acceptStepFrame s call
    exact ⟨setup, keptAcceptStep s call, registryAcceptStep s _ call,
      .looked found next move workers (queueAcceptStep s call) (fun _ => rfl) rfl⟩

theorem cancelAcceptFrame (s : State) (call : Nat) :
    (s.cancelAccept call).setup = s.setup ∧ (s.cancelAccept call).workers = s.workers := by
  unfold cancelAccept
  split <;> exact ⟨rfl, rfl⟩

theorem changeCancelAccept (s : State) (call : Nat) : Change s (.cancelAccept call) (s.cancelAccept call) := by
  cases found : s.accepts[call]? with
  | none =>
    have same : s.cancelAccept call = s := by simp only [cancelAccept, found]
    rw [same]
    exact changeSame s _ (fun _ => rfl) rfl
  | some a =>
    obtain ⟨stage, next, move⟩ := cancelAcceptMove found
    obtain ⟨setup, workers⟩ := cancelAcceptFrame s call
    exact ⟨setup, keptCancelAccept s call, registryCancelAccept s _ call,
      .looked found next move workers (.still (waitingCancelAccept s call)) (fun _ => rfl) rfl⟩

theorem change (s : State) (e : Event) : Change s e (s.apply e) := by
  have silent : ∀ i : Nat, ([] : Bytes) = [] := fun _ => rfl
  cases e with
  | register key => exact changeQuiet (quietRegister s key) (registryRegister s key) silent rfl
  | registerDefault => exact changeQuiet (quietRegisterDefault s) (registryRegisterDefault s) silent rfl
  | unregister key => exact changeQuiet (quietUnregister s key) (registryUnregister s key) silent rfl
  | unregisterDefault => exact changeQuiet (quietUnregisterDefault s) (registryUnregisterDefault s) silent rfl
  | listenerCloseStep i =>
    exact changeQuiet (quietListenerCloseStep s i) (registryListenerCloseStep s _ i) silent rfl
  | closeStep i => exact changeQuiet (quietCloseStep s i) (registryCloseStep s _ i) silent rfl
  | serveStep i => exact changeShed (shedServeStep s i) (registryServeStep s _ i) silent rfl
  | accepted call arrival => exact changeAccepted s call arrival
  | acceptFailed i cause =>
    exact changeQuiet (quietAcceptFailed s i cause) (registryAcceptFailed s _ i cause) silent rfl
  | cancelServe i => exact changeShed (shedCancelServe s i) (registryCancelServe s _ i) silent rfl
  | workerRead i attempt => exact changeWorkerRead s i attempt
  | workerTimeout i => exact changeWorkerTimeout s i
  | workerStep i => exact changeWorkerStep s i
  | beginAccept l =>
    exact ⟨rfl, keptOfListeners rfl, .same rfl rfl, .called rfl rfl (fun _ => rfl) silent rfl⟩
  | acceptStep call => exact changeAcceptStep s call
  | cancelAccept call => exact changeCancelAccept s call
  | beginListenerClose | beginClose | beginServe | advance =>
    exact changeQuiet (quietSame rfl rfl rfl rfl) (.same rfl rfl) silent rfl

theorem setupRun (s : State) (events : List Event) : (s.run events).setup = s.setup := by
  induction events generalizing s with
  | nil => rfl
  | cons e rest ih => exact (ih (s.apply e)).trans (change s e).setup

theorem keptRun (s : State) (events : List Event) : Kept s (s.run events) := by
  induction events generalizing s with
  | nil => exact Kept.refl s
  | cons e rest ih => exact (change s e).kept.trans (ih (s.apply e))

theorem queueMoves (s : State) (e : Event) : QueueMove s e (s.apply e) := by
  cases (change s e).effect with
  | calm quiet => exact .still quiet.waiting
  | shed shed => exact .still shed.waiting
  | joined _ _ waiting => exact .still waiting
  | called _ _ waiting => exact .still waiting
  | worked _ _ _ _ queue => exact queue
  | looked _ _ _ _ queue => exact queue

theorem workerMoves {s : State} {i : Nat} {w : Worker} (e : Event) (found : s.workers[i]? = some w) :
    ∃ stage, (s.apply e).workers[i]? = some { w with stage } ∧ WorkerMove s (s.apply e) i e w.stage stage := by
  have same : (s.apply e).workers = s.workers → s.chunk i e = [] →
      ∃ stage, (s.apply e).workers[i]? = some { w with stage } ∧ WorkerMove s (s.apply e) i e w.stage stage :=
    fun kept silent => ⟨_, by rw [kept, found], .rest silent⟩
  cases (change s e).effect with
  | calm quiet silent => exact same quiet.workers (silent i)
  | called _ workers _ silent => exact same workers (silent i)
  | looked _ _ _ workers _ silent => exact same workers (silent i)
  | joined workers _ _ silent =>
    refine ⟨_, ?_, .rest (silent i)⟩
    rw [workers, List.getElem?_append_left (List.getElem?_eq_some_iff.mp found).1, found]
  | shed shed silent =>
    rcases shed.workers with kept | ⟨owner, dropped⟩
    · exact same kept (silent i)
    · obtain ⟨stage, next, kept | ⟨rfl, missing, got, reading⟩⟩ := workersAbort s owner i found
      · exact ⟨stage, by rw [dropped, next], kept ▸ .rest (silent i)⟩
      · exact ⟨_, by rw [dropped, next], by rw [reading]; exact .aborted (silent i)⟩
  | @worked j v stage present stepped move _ _ silent =>
    by_cases own : i = j
    · subst j
      cases Option.some.inj (found.symm.trans present)
      exact ⟨stage, stepped.own, move⟩
    · exact ⟨_, by rw [stepped.others i own, found], .rest (silent i own)⟩

theorem workersNew {s : State} {i : Nat} (e : Event) (fresh : s.workers[i]? = none) :
    (s.apply e).workers[i]? = (s.joins e)[i - s.workers.length]? := by
  have same : (s.apply e).workers = s.workers → s.joins e = [] →
      (s.apply e).workers[i]? = (s.joins e)[i - s.workers.length]? :=
    fun kept idle => by rw [kept, fresh, idle]; rfl
  cases (change s e).effect with
  | calm quiet _ idle => exact same quiet.workers idle
  | called _ workers _ _ idle => exact same workers idle
  | looked _ _ _ workers _ _ idle => exact same workers idle
  | joined workers =>
    rw [workers, List.getElem?_append_right (List.getElem?_eq_none_iff.mp fresh)]
  | shed shed _ idle =>
    rcases shed.workers with kept | ⟨owner, dropped⟩
    · exact same kept idle
    · rw [dropped, abortWorkers, List.getElem?_map, fresh, idle]
      rfl
  | @worked j v stage present stepped _ _ _ _ idle =>
    have other : i ≠ j := by
      rintro rfl
      rw [fresh] at present
      cases present
    rw [stepped.others i other, fresh, idle]
    rfl

/- Workers are never taken away, and none ever gets another connection. -/
theorem arrivalsApply (s : State) (e : Event) :
    (s.apply e).workers.map Worker.arrival = s.workers.map Worker.arrival ++ (s.joins e).map Worker.arrival := by
  apply List.ext_getElem?
  intro i
  rw [← List.map_append, List.getElem?_map, List.getElem?_map]
  cases present : s.workers[i]? with
  | none =>
    rw [workersNew e present, List.getElem?_append_right (List.getElem?_eq_none_iff.mp present)]
  | some w =>
    obtain ⟨stage, next, _⟩ := workerMoves e present
    rw [next, List.getElem?_append_left (List.getElem?_eq_some_iff.mp present).1, present]
    rfl

theorem acceptMoves {s : State} {call : Nat} {a : Accept} (e : Event) (found : s.accepts[call]? = some a) :
    ∃ stage, (s.apply e).accepts[call]? = some { a with stage } ∧
      AcceptMove s (s.apply e) call e a.listener a.stage stage := by
  have same : (s.apply e).accepts = s.accepts → ∃ stage, (s.apply e).accepts[call]? = some { a with stage } ∧
      AcceptMove s (s.apply e) call e a.listener a.stage stage :=
    fun kept => ⟨_, by rw [kept, found], .rest⟩
  cases (change s e).effect with
  | calm quiet => exact same quiet.accepts
  | shed shed => exact same shed.accepts
  | joined _ accepts => exact same accepts
  | worked _ _ _ accepts => exact same accepts
  | called accepts =>
    refine ⟨_, ?_, .rest⟩
    rw [accepts, List.getElem?_append_left (List.getElem?_eq_some_iff.mp found).1, found]
  | @looked j b stage present next move =>
    by_cases own : call = j
    · subst j
      cases Option.some.inj (found.symm.trans present)
      exact ⟨stage, by rw [next, acceptsSetAccept found, if_pos rfl], move⟩
    · exact ⟨_, by rw [next, acceptsSetAccept present, if_neg own, found], .rest⟩

theorem acceptsNew {s : State} {call : Nat} {a : Accept} (e : Event) (fresh : s.accepts[call]? = none)
    (found : (s.apply e).accepts[call]? = some a) : a.stage = .begun := by
  have never : (s.apply e).accepts = s.accepts → a.stage = .begun := by
    intro same
    rw [same, fresh] at found
    cases found
  cases (change s e).effect with
  | calm quiet => exact never quiet.accepts
  | shed shed => exact never shed.accepts
  | joined _ accepts => exact never accepts
  | worked _ _ _ accepts => exact never accepts
  | called accepts =>
    rw [accepts, List.getElem?_append_right (List.getElem?_eq_none_iff.mp fresh)] at found
    obtain rfl := List.mem_singleton.mp (List.mem_of_getElem? found)
    rfl
  | @looked j b stage present next =>
    rw [next, acceptsSetAccept present] at found
    split at found
    · subst j
      rw [fresh] at present
      cases present
    · rw [fresh] at found
      cases found

theorem listenersNew {s : State} {l : Nat} (absent : s.listeners.length ≤ l) (e : Event) :
    (s.apply e).listeners[l]? = none ∨ ∃ key, (s.apply e).listeners[l]? = some (s.newListener key) := by
  have same (length : (s.apply e).listeners.length = s.listeners.length) : (s.apply e).listeners[l]? = none :=
    List.getElem?_eq_none (length ▸ absent)
  have added {key : Option Bytes} (listeners : (s.apply e).listeners = s.listeners ++ [s.newListener key]) :
      (s.apply e).listeners[l]? = none ∨ ∃ key, (s.apply e).listeners[l]? = some (s.newListener key) := by
    rw [listeners, List.getElem?_append_right absent, List.getElem?_singleton]
    split
    · exact .inr ⟨key, rfl⟩
    · exact .inl rfl
  cases (change s e).registry with
  | same _ length | drained _ length => exact .inl (same length)
  | removed _ _ listeners | removedDefault _ _ listeners => exact .inl (same (congrArg List.length listeners))
  | added _ _ _ _ listeners => exact added listeners
  | addedDefault _ _ _ _ listeners => exact added listeners

end SharedPort.Selector.State
