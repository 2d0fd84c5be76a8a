import SharedPort.Proofs.Selector.Effects

/-! The moves of a worker. Whatever the event, a worker keeps its connection, its serve call and its deadline, and its
stage stays or makes one of the moves listed here. -/
namespace SharedPort.Selector.State
open SharedPort.Stream (Attempt Gather Replay)

/- The bytes that a worker takes from its connection with an event: what a read gave it, unless the
worker does not read or the read would give more than there was room for. -/
def chunk (s : State) (i : Nat) : Event → Bytes
  | .workerRead j (.done bytes) =>
      match s.workers[j]? with
      | some ⟨_, _, _, .peeking missing _⟩ => if j = i ∧ bytes.length ≤ missing then bytes else []
      | _ => []
  | _ => []

def given (i : Nat) : State → List Event → Bytes
  | _, [] => []
  | s, e :: rest => s.chunk i e ++ given i (s.apply e) rest

theorem givenAppend (i : Nat) (s : State) (before after : List Event) :
    given i s (before ++ after) = given i s before ++ given i (s.run before) after := by
  induction before generalizing s with
  | nil => rfl
  | cons e rest ih =>
    simp only [List.cons_append, given, ih, List.append_assoc]
    rfl

theorem givenSnoc (i : Nat) (s : State) (events : List Event) (e : Event) :
    given i s (events ++ [e]) = given i s events ++ (s.run events).chunk i e := by
  simp [givenAppend, given]

inductive WorkerMove (s t : State) (i : Nat) (e : Event) : WorkerStage → WorkerStage → Prop where
  | rest {stage} (silent : s.chunk i e = []) : WorkerMove s t i e stage stage
  | fed {missing got bytes} (taken : s.chunk i e = bytes) (short : bytes.length < missing) :
      WorkerMove s t i e (.peeking missing got) (.peeking (missing - bytes.length) (got ++ bytes))
  | filled {missing got bytes} (taken : s.chunk i e = bytes) (whole : bytes.length = missing) :
      WorkerMove s t i e (.peeking missing got) (.peeked (got ++ bytes))
  | lost {missing got cause} (silent : s.chunk i e = []) :
      WorkerMove s t i e (.peeking missing got) (.settled (.peekFailed cause))
  | aborted {missing got} (silent : s.chunk i e = []) :
      WorkerMove s t i e (.peeking missing got) (.settled .aborted)
  | routed {header l} (event : e = .workerStep i)
      (route : s.registry.route s.setup.rule s.setup.headerSize header = some l) :
      WorkerMove s t i e (.peeked header) (.found header l)
  | astray {header} (event : e = .workerStep i)
      (route : s.registry.route s.setup.rule s.setup.headerSize header = none) :
      WorkerMove s t i e (.peeked header) (.settled .unroutable)
  | pushed {header l L} (event : e = .workerStep i) (found : s.listeners[l]? = some L)
      (isOpen : L.queue.closed = false) (room : L.queue.isFull L.capacity = false)
      (grown : (t.waiting l).length = (s.waiting l).length + 1) :
      WorkerMove s t i e (.found header l) (.ringing l)
  | refused {header l L why} (event : e = .workerStep i) (found : s.listeners[l]? = some L)
      (reason : if L.queue.closed then why = .closed else why = .full ∧ L.queue.isFull L.capacity = true) :
      WorkerMove s t i e (.found header l) (.settled (.rejected l why))
  | vanished {header l} (event : e = .workerStep i) (missing : s.listeners[l]? = none) :
      WorkerMove s t i e (.found header l) (.settled .unroutable)
  | rung {l} (event : e = .workerStep i) : WorkerMove s t i e (.ringing l) (.settled (.queued l))

theorem workersSetWorker {s : State} {i : Nat} {w : Worker} (found : s.workers[i]? = some w)
    (stage : WorkerStage) (j : Nat) :
    (s.setWorker i stage).workers[j]? = if j = i then some { w with stage } else s.workers[j]? := by
  simp only [setWorker, List.getElem?_modify]
  by_cases same : j = i
  · subst j; simp [found]
  · have other : i ≠ j := fun h => same h.symm
    simp [same, other]

structure Stepped (s t : State) (i : Nat) (w : Worker) (stage : WorkerStage) : Prop where
  own : t.workers[i]? = some { w with stage }
  others : ∀ j, j ≠ i → t.workers[j]? = s.workers[j]?

theorem steppedSetWorker {s t : State} {i : Nat} {w : Worker} (found : s.workers[i]? = some w)
    {stage : WorkerStage} (same : t.workers = (s.setWorker i stage).workers) : Stepped s t i w stage := by
  refine ⟨?_, fun j other => ?_⟩
  · rw [same, workersSetWorker found, if_pos rfl]
  · rw [same, workersSetWorker found, if_neg other]

theorem steppedSame {s t : State} {i : Nat} {w : Worker} (found : s.workers[i]? = some w)
    (same : t.workers = s.workers) : Stepped s t i w w.stage := by
  refine ⟨?_, fun j _ => by rw [same]⟩
  rw [same, found]

theorem readMove {s : State} {i : Nat} {w : Worker} (found : s.workers[i]? = some w) (attempt : Attempt Bytes) :
    ∃ stage, Stepped s (s.workerRead i attempt) i w stage ∧
      WorkerMove s (s.workerRead i attempt) i (.workerRead i attempt) w.stage stage := by
  obtain ⟨arrival, owner, deadline, stage⟩ := w
  have still : ∀ {t : State}, t.workers = s.workers → s.chunk i (.workerRead i attempt) = [] →
      ∃ next, Stepped s t i ⟨arrival, owner, deadline, stage⟩ next ∧
        WorkerMove s t i (.workerRead i attempt) stage next :=
    fun same silent => ⟨_, steppedSame found same, .rest silent⟩
  cases stage with
  | peeking missing got =>
    simp only [workerRead, found]
    cases attempt with
    | notReady wake =>
      simp only [Attempt.fits, if_true, Gather.feed]
      exact ⟨_, steppedSetWorker found rfl, .rest rfl⟩
    | failed cause =>
      simp only [Attempt.fits, if_true, Gather.feed]
      by_cases interrupted : cause.kind = .interrupted
      · simp only [if_pos interrupted]
        exact ⟨_, steppedSetWorker found rfl, .rest rfl⟩
      · simp only [if_neg interrupted]
        exact ⟨_, steppedSetWorker found rfl, .lost rfl⟩
    | done bytes =>
      simp only [Attempt.fits, decide_eq_true_eq]
      by_cases fits : bytes.length ≤ missing
      · have taken : s.chunk i (.workerRead i (.done bytes)) = bytes := by simp [chunk, found, fits]
        rw [if_pos fits]
        cases bytes with
        | nil =>
          simp only [Gather.feed]
          exact ⟨_, steppedSetWorker found rfl, .lost taken⟩
        | cons b rest =>
          simp only [Gather.feed, Gather.needing]
          by_cases whole : missing - (b :: rest).length = 0
          · rw [if_pos whole]
            exact ⟨_, steppedSetWorker found rfl, .filled taken (by omega)⟩
          · rw [if_neg whole]
            exact ⟨_, steppedSetWorker found rfl, .fed taken (by omega)⟩
      · rw [if_neg fits]
        exact still rfl (by simp [chunk, found, fits])
  | peeked | found | ringing | settled =>
    refine still ?_ ?_
    · simp only [workerRead, found]
    · cases attempt <;> simp [chunk, found]

theorem timeoutMove {s : State} {i : Nat} {w : Worker} (found : s.workers[i]? = some w) :
    ∃ stage, Stepped s (s.workerTimeout i) i w stage ∧
      WorkerMove s (s.workerTimeout i) i (.workerTimeout i) w.stage stage := by
  unfold workerTimeout
  split
  · rename_i overdue
    unfold isOverdue at overdue
    rw [found] at overdue
    obtain ⟨arrival, owner, deadline, stage⟩ := w
    cases stage with
    | peeking missing got => exact ⟨_, steppedSetWorker found rfl, .lost rfl⟩
    | peeked | found | ringing | settled => cases deadline <;> simp at overdue
  · exact ⟨_, steppedSame found rfl, .rest rfl⟩

theorem deliverMove {s : State} {i l : Nat} {w : Worker} {header : Bytes} (found : s.workers[i]? = some w)
    (stage : w.stage = .found header l) :
    ∃ next, Stepped s (s.deliver i w.arrival header l) i w next ∧
      WorkerMove s (s.deliver i w.arrival header l) i (.workerStep i) w.stage next := by
  unfold deliver
  rw [stage]
  cases target : s.listeners[l]? with
  | none => exact ⟨_, steppedSetWorker found rfl, .vanished rfl target⟩
  | some L =>
    simp only [Listener.Queue.push]
    by_cases closed : L.queue.closed
    · rw [if_pos closed]
      exact ⟨_, steppedSetWorker found rfl, .refused rfl target (by rw [if_pos closed])⟩
    · rw [if_neg closed]
      by_cases full : L.queue.isFull L.capacity
      · rw [if_pos full]
        exact ⟨_, steppedSetWorker found rfl, .refused rfl target (by rw [if_neg closed]; exact ⟨rfl, full⟩)⟩
      · rw [if_neg full]
        refine ⟨_, steppedSetWorker found rfl,
          .pushed rfl target (Bool.eq_false_iff.mpr closed) (Bool.eq_false_iff.mpr full) ?_⟩
        rw [waitingOfListener target]
        exact (congrArg List.length ((waitingSetQueue target _ l).trans (if_pos rfl))).trans List.length_append

theorem ownStepMove {s : State} {i : Nat} {w : Worker} (found : s.workers[i]? = some w) :
    ∃ stage, Stepped s (s.workerStep i) i w stage ∧
      WorkerMove s (s.workerStep i) i (.workerStep i) w.stage stage := by
  cases stage : w.stage with
  | peeking | settled =>
    refine ⟨w.stage, steppedSame found ?_, stage ▸ .rest rfl⟩
    obtain ⟨arrival, owner, deadline, _⟩ := w
    cases stage
    simp only [workerStep, found]
  | peeked header =>
    obtain ⟨arrival, owner, deadline, _⟩ := w
    cases stage
    simp only [workerStep, found]
    cases route : s.registry.route s.setup.rule s.setup.headerSize header with
    | some l => exact ⟨_, steppedSetWorker found rfl, .routed rfl route⟩
    | none => exact ⟨_, steppedSetWorker found rfl, .astray rfl route⟩
  | found header l =>
    have delivered := deliverMove found stage
    rw [stage] at delivered
    obtain ⟨arrival, owner, deadline, _⟩ := w
    cases stage
    simpa only [workerStep, found] using delivered
  | ringing l =>
    obtain ⟨arrival, owner, deadline, _⟩ := w
    cases stage
    simp only [workerStep, found]
    exact ⟨_, steppedSetWorker found rfl, .rung rfl⟩

theorem workersAbort (s : State) (owner i : Nat) {w : Worker} (found : s.workers[i]? = some w) :
    ∃ stage, (s.abortWorkers owner).workers[i]? = some { w with stage } ∧
      (stage = w.stage ∨ stage = .settled .aborted ∧ ∃ missing got, w.stage = .peeking missing got) := by
  simp only [abortWorkers, List.getElem?_map, found, Option.map_some]
  obtain ⟨arrival, belongs, deadline, stage⟩ := w
  cases stage with
  | peeking missing got =>
    by_cases own : belongs = owner
    · exact ⟨_, by simp only [if_pos own], .inr ⟨rfl, missing, got, rfl⟩⟩
    · exact ⟨_, by simp only [if_neg own], .inl rfl⟩
  | peeked | found | ringing | settled => exact ⟨_, rfl, .inl rfl⟩

def newWorker (s : State) (call : Nat) (arrival : Arrival) : Worker :=
  ⟨arrival, call, s.setup.options.peekTimeout.map (s.now + ·.millis), .peeking s.setup.headerSize []⟩

def joins (s : State) : Event → List Worker
  | .accepted call arrival => if s.isAccepting call then [s.newWorker call arrival] else []
  | _ => []

theorem joinsPeeking {s : State} {e : Event} {w : Worker} (member : w ∈ s.joins e) :
    w.stage = .peeking s.setup.headerSize [] := by
  cases e with
  | accepted call arrival =>
    simp only [joins] at member
    split at member
    · obtain rfl := List.mem_singleton.mp member
      rfl
    · exact (List.not_mem_nil member).elim
  | _ => exact (List.not_mem_nil member).elim

theorem workersAccepted (s : State) (call : Nat) (arrival : Arrival) :
    (s.accepted call arrival).workers = s.workers ++ s.joins (.accepted call arrival) := by
  by_cases accepting : s.isAccepting call
  · simp only [accepted, joins, accepting, if_true, newWorker]
  · simp [accepted, joins, accepting]

theorem silentOther {s : State} {i j : Nat} (attempt : Attempt Bytes) (other : i ≠ j) :
    s.chunk i (.workerRead j attempt) = [] := by
  cases attempt with
  | done bytes =>
    simp only [chunk]
    split
    · exact if_neg fun h => other h.1.symm
    · rfl
  | failed | notReady => rfl

theorem chunkAbsent {s : State} {i : Nat} (absent : s.workers[i]? = none) (e : Event) : s.chunk i e = [] := by
  cases e with
  | workerRead j attempt =>
    by_cases own : i = j
    · subst j
      cases attempt with
      | done bytes => simp only [chunk, absent]
      | failed | notReady => rfl
    · exact silentOther attempt own
  | _ => rfl

theorem noWorkerRead {s : State} {j : Nat} (none : s.workers[j]? = none) (attempt : Attempt Bytes) :
    s.workerRead j attempt = s := by simp only [workerRead, none]

theorem noWorkerTimeout {s : State} {j : Nat} (none : s.workers[j]? = none) : s.workerTimeout j = s := by
  simp [workerTimeout, isOverdue, none]

theorem noWorkerStep {s : State} {j : Nat} (none : s.workers[j]? = none) : s.workerStep j = s := by
  simp only [workerStep, none]

theorem readOthers {s : State} {i j : Nat} (other : i ≠ j) (attempt : Attempt Bytes) :
    (s.workerRead j attempt).workers[i]? = s.workers[i]? := by
  cases worker : s.workers[j]? with
  | none => rw [noWorkerRead worker]
  | some u =>
    obtain ⟨_, stepped, _⟩ := readMove worker attempt
    exact stepped.others i other

theorem timeoutOthers {s : State} {i j : Nat} (other : i ≠ j) : (s.workerTimeout j).workers[i]? = s.workers[i]? := by
  cases worker : s.workers[j]? with
  | none => rw [noWorkerTimeout worker]
  | some u =>
    obtain ⟨_, stepped, _⟩ := timeoutMove worker
    exact stepped.others i other

theorem stepOthers {s : State} {i j : Nat} (other : i ≠ j) : (s.workerStep j).workers[i]? = s.workers[i]? := by
  cases worker : s.workers[j]? with
  | none => rw [noWorkerStep worker]
  | some u =>
    obtain ⟨_, stepped, _⟩ := ownStepMove worker
    exact stepped.others i other

def readStage : Gather → WorkerStage
  | .reading missing got => .peeking missing got
  | .complete header => .peeked header
  | .failed cause => .settled (.peekFailed (.io cause))

theorem readStep {s : State} {i missing : Nat} {w : Worker} {got : Bytes} {attempt : Attempt Bytes}
    (found : s.workers[i]? = some w) (stage : w.stage = .peeking missing got) (fits : attempt.fits missing = true) :
    Stepped s (s.workerRead i attempt) i w (readStage (Gather.feed missing got attempt)) := by
  obtain ⟨arrival, owner, deadline, _⟩ := w
  cases stage
  apply steppedSetWorker found
  simp only [workerRead, found, fits, if_true]
  cases Gather.feed missing got attempt <;> rfl

theorem timeoutStep {s : State} {i : Nat} {w : Worker} (found : s.workers[i]? = some w) :
    Stepped s (s.workerTimeout i) i w w.stage ∨ ∃ missing got limit, w.stage = .peeking missing got ∧
      s.isOverdue i = true ∧ Stepped s (s.workerTimeout i) i w (.settled (.peekFailed (.peekTimeout limit))) := by
  unfold workerTimeout
  split
  · rename_i overdue
    obtain ⟨arrival, owner, deadline, stage⟩ := w
    cases stage with
    | peeking missing got => exact .inr ⟨missing, got, _, rfl, overdue, steppedSetWorker found rfl⟩
    | peeked | found | ringing | settled =>
      unfold isOverdue at overdue
      rw [found] at overdue
      cases deadline <;> simp at overdue
  · exact .inl (steppedSame found rfl)

end SharedPort.Selector.State
