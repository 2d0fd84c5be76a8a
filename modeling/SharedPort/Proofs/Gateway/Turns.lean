import SharedPort.Proofs.Gateway.World
import SharedPort.Proofs.Selector.Waiter

/-! What one turn does to the selector, by one event at most, and to a connection and its worker. -/
namespace SharedPort.Gateway
open SharedPort.Selector (State Worker WorkerStage Arrival)
open SharedPort.Selector.State (Event readStage)
open SharedPort.Stream (Attempt Gather)

/- What a loop and its accept call are while the gateway is open. -/
structure LoopSound (g : Gateway) (w : World) (l : Nat) (v : Serving) : Prop where
  listener : v.listener = l
  target : (g.routes[l]?).map Route.target = some v.loop.target
  serving : v.loop.stage = .serving
  waiter : ∃ x, w.selector.WaiterAt l v.waiting x

structure Sound (g : Gateway) (w : World) : Prop where
  unclosed : w.selector.Unclosed
  setup : w.selector.setup = g.selector.setup
  registry : w.selector.registry = g.selector.registry
  listeners : g.routes.length ≤ w.selector.listeners.length
  numbered : ∀ (i : Nat) (v : Worker), w.selector.workers[i]? = some v → v.arrival.connection = i
  counted : w.selector.workers.length = w.callers.length
  loops : ∀ l v, w.loops[l]? = some v → LoopSound g w l v

inductive Acts (w : World) : Turn → Event → Prop where
  | serve : Acts w .serve .beginServe
  | serveStep {call} : Acts w (.serveStep call) (.serveStep call)
  | hiccup {call cause} (passing : cause.isTransient = true) :
      Acts w (.hiccup call cause) (.acceptFailed call (.io cause))
  | arrive {call peer stream} (accepting : w.selector.isAccepting call = true) :
      Acts w (.arrive call peer stream) (.accepted call ⟨w.callers.length, peer⟩)
  | read {i attempt} : Acts w (.read i) (.workerRead i attempt)
  | late {i} : Acts w (.late i) (.workerTimeout i)
  | route {i} : Acts w (.route i) (.workerStep i)
  | listen {l v} (loop : w.loops[l]? = some v) : Acts w (.listen l) (.beginAccept v.listener)
  | accept {l call} (awaited : w.awaited l = some call) : Acts w (.accept l) (.acceptStep call)
  | join {l j call} (awaited : w.awaited l = some call) (rests : w.selector.canCancelAccept call = true) :
      Acts w (.join l j) (.cancelAccept call)
  | advance {length} : Acts w (.advance length) (.advance length)

theorem Acts.spares {w : World} {t : Turn} {e : Event} (acts : Acts w t e) : e.spares = true := by
  cases acts with
  | hiccup passing => exact passing
  | serve | serveStep | arrive | read | late | route | listen | accept | join | advance => rfl

theorem turnActs (w : World) (t : Turn) :
    (w.turn t).selector = w.selector ∨ ∃ e, Acts w t e ∧ (w.turn t).selector = w.selector.apply e := by
  cases t with
  | serve => exact .inr ⟨_, .serve, rfl⟩
  | serveStep call => exact .inr ⟨_, .serveStep, rfl⟩
  | hiccup call cause =>
    simp only [World.turn]
    split
    · rename_i passing
      exact .inr ⟨_, .hiccup passing, rfl⟩
    · exact .inl rfl
  | arrive call peer stream =>
    simp only [World.turn]
    split
    · rename_i accepting
      exact .inr ⟨_, .arrive accepting, rfl⟩
    · exact .inl rfl
  | read i =>
    simp only [World.turn, World.read]
    split
    · split
      · exact .inl rfl
      · exact .inr ⟨_, .read, rfl⟩
    · exact .inl rfl
  | late i => exact .inr ⟨_, .late, rfl⟩
  | route i => exact .inr ⟨_, .route, rfl⟩
  | listen l =>
    simp only [World.turn, World.step, Serving.listen]
    cases loop : w.loops[l]? with
    | none => exact .inl rfl
    | some v =>
      dsimp only
      split
      · exact .inr ⟨_, .listen loop, rfl⟩
      · exact .inl rfl
  | accept l =>
    simp only [World.turn]
    cases awaited : w.awaited l with
    | none => exact .inl rfl
    | some call => exact .inr ⟨_, .accept awaited, rfl⟩
  | take l | ended l j =>
    simp only [World.turn, World.step]
    cases w.loops[l]? <;> exact .inl rfl
  | join l j =>
    simp only [World.turn, World.step, Serving.join]
    cases loop : w.loops[l]? with
    | none => exact .inl rfl
    | some v =>
      dsimp only
      split
      · rename_i free
        cases waiting : v.waiting with
        | none => exact .inl rfl
        | some call =>
          have awaited : w.awaited l = some call := by simp only [World.awaited, loop, Option.bind_some, waiting]
          have rests : w.selector.canCancelAccept call = true := by
            simpa only [Serving.isFree, waiting, Option.all_some] using free.2.2
          exact .inr ⟨_, .join awaited rests, rfl⟩
      · exact .inl rfl
  | advance length => exact .inr ⟨_, .advance, rfl⟩

def Turn.isWork : Turn → Bool
  | .arrive .. | .read _ | .late _ | .route _ => true
  | _ => false

theorem callersStill {w : World} {t : Turn} (idle : t.isWork = false) : (w.turn t).callers = w.callers := by
  cases t with
  | arrive | read | late | route => cases idle
  | serve | serveStep | advance => rfl
  | hiccup call cause =>
    simp only [World.turn]
    split <;> rfl
  | listen l | take l | ended l j | join l j =>
    simp only [World.turn, World.step]
    cases w.loops[l]? <;> rfl
  | accept l =>
    simp only [World.turn]
    cases w.awaited l <;> rfl

def ownTurn (i : Nat) : WorkerStage → Option Turn
  | .peeking .. => some (.read i)
  | .peeked _ | .found .. | .ringing _ => some (.route i)
  | .settled _ => none

inductive WorkerTurn (w w' : World) (t : Turn) (i : Nat) (arrival : Arrival) : WorkerStage → WorkerStage → Prop where
  | rest {stage} (other : ownTurn i stage ≠ some t) (caller : w'.callers[i]? = w.callers[i]?) :
      WorkerTurn w w' t i arrival stage stage
  | read {missing got caller} (event : t = .read i) (found : w.callers[i]? = some caller)
      (next : w'.callers[i]? = some { caller with now := (caller.now.read w.selector.now missing).2 }) :
      WorkerTurn w w' t i arrival (.peeking missing got)
        (readStage (Gather.feed missing got (caller.now.read w.selector.now missing).1))
  | late {missing got limit} (event : t = .late i) (caller : w'.callers[i]? = w.callers[i]?)
      (overdue : w.selector.isOverdue i = true) :
      WorkerTurn w w' t i arrival (.peeking missing got) (.settled (.peekFailed (.peekTimeout limit)))
  | routed {header l} (event : t = .route i) (caller : w'.callers[i]? = w.callers[i]?)
      (route : w.selector.registry.route w.selector.setup.rule w.selector.setup.headerSize header = some l) :
      WorkerTurn w w' t i arrival (.peeked header) (.found header l)
  | astray {header} (event : t = .route i) (caller : w'.callers[i]? = w.callers[i]?)
      (route : w.selector.registry.route w.selector.setup.rule w.selector.setup.headerSize header = none) :
      WorkerTurn w w' t i arrival (.peeked header) (.settled .unroutable)
  | pushed {header l} (event : t = .route i) (caller : w'.callers[i]? = w.callers[i]?)
      (grown : w'.selector.waiting l =
        w.selector.waiting l ++ [⟨.ofHeader arrival.connection header, arrival.peer⟩]) :
      WorkerTurn w w' t i arrival (.found header l) (.ringing l)
  | refused {header l} (event : t = .route i) (caller : w'.callers[i]? = w.callers[i]?)
      (full : (w.selector.listeners[l]?).any (fun L => L.queue.isFull L.capacity) = true) :
      WorkerTurn w w' t i arrival (.found header l) (.settled (.rejected l .full))
  | vanished {header l} (event : t = .route i) (caller : w'.callers[i]? = w.callers[i]?)
      (missing : w.selector.listeners[l]? = none) :
      WorkerTurn w w' t i arrival (.found header l) (.settled .unroutable)
  | rung {l} (event : t = .route i) (caller : w'.callers[i]? = w.callers[i]?) :
      WorkerTurn w w' t i arrival (.ringing l) (.settled (.queued l))

theorem workersStill {w : World} {t : Turn} (unclosed : w.selector.Unclosed) (idle : t.isWork = false) :
    (w.turn t).selector.workers = w.selector.workers := by
  rcases turnActs w t with same | ⟨e, acts, same⟩
  · rw [same]
  · rw [same]
    have spares := acts.spares
    cases acts with
    | arrive | read | late | route => cases idle
    | serve | serveStep | hiccup | listen | accept | join | advance =>
      exact Selector.State.workersApply unclosed spares rfl fun _ _ => ⟨nofun, nofun, nofun⟩

theorem restTurn {w : World} {t : Turn} {i : Nat} {v : Worker} (found : w.selector.workers[i]? = some v)
    (workers : (w.turn t).selector.workers[i]? = w.selector.workers[i]?) (other : ownTurn i v.stage ≠ some t)
    (caller : (w.turn t).callers[i]? = w.callers[i]?) :
    ∃ stage, (w.turn t).selector.workers[i]? = some { v with stage } ∧
      WorkerTurn w (w.turn t) t i v.arrival v.stage stage :=
  ⟨v.stage, workers.trans found, .rest other caller⟩

theorem ownRead {i j : Nat} {stage : WorkerStage} (own : ownTurn i stage = some (.read j)) :
    i = j ∧ ∃ missing got, stage = .peeking missing got := by
  cases stage with
  | peeking missing got =>
    cases own
    exact ⟨rfl, missing, got, rfl⟩
  | peeked | found | ringing | settled => cases own

theorem readSame {w : World} {j : Nat} (noReader : ∀ arrival owner deadline missing got,
    w.selector.workers[j]? ≠ some ⟨arrival, owner, deadline, .peeking missing got⟩) : w.turn (.read j) = w := by
  change w.read j = w
  unfold World.read
  split
  · rename_i found
    exact (noReader _ _ _ _ _ found).elim
  · rfl

theorem readOwn {w : World} {j missing owner : Nat} {deadline : Option Nat} {arrival : Arrival} {got : Bytes}
    {caller : Caller} (worker : w.selector.workers[j]? = some ⟨arrival, owner, deadline, .peeking missing got⟩)
    (number : arrival.connection = j) (found : w.callers[j]? = some caller) :
    w.turn (.read j) = { w.act (.workerRead j (caller.now.read w.selector.now missing).1) with
      callers := w.callers.set j { caller with now := (caller.now.read w.selector.now missing).2 } } := by
  simp only [World.turn, World.read, worker, number, found]

theorem scriptedFits (now room : Nat) (s : Stream.Scripted) : (s.read now room).1.fits room = true :=
  Stream.Script.readFits now room s.reads

theorem readTurn {g : Gateway} {w : World} {i : Nat} {v : Worker} (sound : Sound g w) (j : Nat)
    (found : w.selector.workers[i]? = some v) :
    ∃ stage, (w.turn (.read j)).selector.workers[i]? = some { v with stage } ∧
      WorkerTurn w (w.turn (.read j)) (.read j) i v.arrival v.stage stage := by
  by_cases reads : ∃ arrival owner deadline missing got,
      w.selector.workers[j]? = some ⟨arrival, owner, deadline, .peeking missing got⟩
  · obtain ⟨arrival, owner, deadline, missing, got, worker⟩ := reads
    have number := sound.numbered j _ worker
    have inside : j < w.callers.length := sound.counted ▸ (List.getElem?_eq_some_iff.mp worker).1
    obtain ⟨caller, present⟩ : ∃ caller, w.callers[j]? = some caller := ⟨_, List.getElem?_eq_getElem inside⟩
    have stepped := Selector.State.readStep worker rfl (scriptedFits w.selector.now missing caller.now)
    have turn := readOwn worker number present
    by_cases same : i = j
    · cases same
      cases Option.some.inj (found.symm.trans worker)
      refine ⟨_, ?_, .read rfl present ?_⟩
      · rw [turn]
        exact stepped.own
      · rw [turn]
        exact List.getElem?_set_self inside
    · refine restTurn found ?_ (fun own => same (ownRead own).1) ?_
      · rw [turn]
        exact stepped.others i same
      · rw [turn]
        exact List.getElem?_set_ne fun h => same h.symm
  · have noReader : ∀ arrival owner deadline missing got,
        w.selector.workers[j]? ≠ some ⟨arrival, owner, deadline, .peeking missing got⟩ :=
      fun arrival owner deadline missing got worker => reads ⟨arrival, owner, deadline, missing, got, worker⟩
    refine restTurn found (by rw [readSame noReader]) (fun own => ?_) (by rw [readSame noReader])
    obtain ⟨rfl, missing, got, stage⟩ := ownRead own
    obtain ⟨arrival, owner, deadline, _⟩ := v
    cases stage
    exact noReader _ _ _ _ _ found

theorem lateTurn {w : World} {i : Nat} {v : Worker} (j : Nat) (found : w.selector.workers[i]? = some v) :
    ∃ stage, (w.turn (.late j)).selector.workers[i]? = some { v with stage } ∧
      WorkerTurn w (w.turn (.late j)) (.late j) i v.arrival v.stage stage := by
  have other : ownTurn i v.stage ≠ some (.late j) := by cases v.stage <;> exact nofun
  by_cases same : i = j
  · subst j
    rcases Selector.State.timeoutStep found with stepped | ⟨missing, got, limit, stage, overdue, stepped⟩
    · exact ⟨_, stepped.own, .rest other rfl⟩
    · rw [stage]
      exact ⟨_, stepped.own, .late rfl rfl overdue⟩
  · exact restTurn found (Selector.State.timeoutOthers same) other rfl

theorem deliverTurn {w : World} {i l : Nat} {v : Worker} {header : Bytes} (unclosed : w.selector.Unclosed)
    (found : w.selector.workers[i]? = some v) (stage : v.stage = .found header l) :
    ∃ next, (w.turn (.route i)).selector.workers[i]? = some { v with stage := next } ∧
      WorkerTurn w (w.turn (.route i)) (.route i) i v.arrival (.found header l) next := by
  have step : (w.turn (.route i)).selector = w.selector.deliver i v.arrival header l := by
    obtain ⟨arrival, owner, deadline, _⟩ := v
    cases stage
    simp only [World.turn, World.act, Selector.State.apply, Selector.State.workerStep, found]
  have set := fun (next : WorkerStage) (s : State) (same : s.workers = w.selector.workers) =>
    (Selector.State.workersSetWorker (same ▸ found : s.workers[i]? = some v) next i).trans (if_pos rfl)
  cases target : w.selector.listeners[l]? with
  | none =>
    refine ⟨.settled .unroutable, ?_, .vanished rfl rfl target⟩
    rw [step]
    simp only [Selector.State.deliver, target]
    exact set _ _ rfl
  | some L =>
    have isOpen := unclosed.queues L (List.mem_of_getElem? target)
    by_cases full : L.queue.isFull L.capacity = true
    · refine ⟨.settled (.rejected l .full), ?_, .refused rfl rfl (by simp only [target, Option.any_some, full])⟩
      rw [step]
      simp only [Selector.State.deliver, target, Listener.Queue.push, isOpen, full, Bool.false_eq_true, if_false,
        if_true]
      exact set _ _ rfl
    · obtain ⟨_, u, again, grown⟩ := Selector.State.deliveryTaken found stage target isOpen (Bool.eq_false_iff.mpr full)
      cases Option.some.inj (found.symm.trans again)
      refine ⟨.ringing l, ?_, .pushed rfl rfl grown⟩
      rw [step]
      simp only [Selector.State.deliver, target, Listener.Queue.push, isOpen, full, Bool.false_eq_true, if_false]
      exact set _ (w.selector.setListener l _) rfl

theorem routeOwn {w : World} {i : Nat} {v : Worker} (unclosed : w.selector.Unclosed)
    (found : w.selector.workers[i]? = some v) :
    ∃ stage, (w.turn (.route i)).selector.workers[i]? = some { v with stage } ∧
      WorkerTurn w (w.turn (.route i)) (.route i) i v.arrival v.stage stage := by
  cases stage : v.stage with
  | found header l => exact deliverTurn unclosed found stage
  | peeking | settled =>
    have step : w.selector.workerStep i = w.selector := by
      obtain ⟨arrival, owner, deadline, _⟩ := v
      cases stage
      simp only [Selector.State.workerStep, found]
    have same : (w.turn (.route i)).selector = w.selector := step
    rw [← stage]
    refine ⟨v.stage, by rw [same, found], .rest ?_ rfl⟩
    rw [stage]
    rintro ⟨⟩
  | peeked header =>
    obtain ⟨arrival, owner, deadline, _⟩ := v
    cases stage
    simp only [World.turn, World.act, Selector.State.apply, Selector.State.workerStep, found]
    cases route : w.selector.registry.route w.selector.setup.rule w.selector.setup.headerSize header with
    | some l =>
      exact ⟨_, (Selector.State.workersSetWorker found _ i).trans (if_pos rfl), .routed rfl rfl route⟩
    | none =>
      exact ⟨_, (Selector.State.workersSetWorker found _ i).trans (if_pos rfl), .astray rfl rfl route⟩
  | ringing l =>
    obtain ⟨arrival, owner, deadline, _⟩ := v
    cases stage
    simp only [World.turn, World.act, Selector.State.apply, Selector.State.workerStep, found]
    exact ⟨_, (Selector.State.workersSetWorker found _ i).trans (if_pos rfl), .rung rfl rfl⟩

theorem routeTurn {w : World} {i : Nat} {v : Worker} (unclosed : w.selector.Unclosed) (j : Nat)
    (found : w.selector.workers[i]? = some v) :
    ∃ stage, (w.turn (.route j)).selector.workers[i]? = some { v with stage } ∧
      WorkerTurn w (w.turn (.route j)) (.route j) i v.arrival v.stage stage := by
  by_cases same : i = j
  · cases same
    exact routeOwn unclosed found
  · refine restTurn found (Selector.State.stepOthers same) (fun own => ?_) rfl
    cases stage : v.stage with
    | peeking | settled =>
      rw [stage] at own
      cases own
    | peeked | found | ringing =>
      rw [stage] at own
      cases own
      exact same rfl

theorem arriveTurn {w : World} {i : Nat} {v : Worker} (counted : w.selector.workers.length = w.callers.length)
    (call : Nat) (peer : SocketAddress) (stream : Stream.Scripted) (found : w.selector.workers[i]? = some v) :
    ∃ stage, (w.turn (.arrive call peer stream)).selector.workers[i]? = some { v with stage } ∧
      WorkerTurn w (w.turn (.arrive call peer stream)) (.arrive call peer stream) i v.arrival v.stage stage := by
  have inside := (List.getElem?_eq_some_iff.mp found).1
  have other : ownTurn i v.stage ≠ some (.arrive call peer stream) := by cases v.stage <;> exact nofun
  simp only [World.turn]
  split
  · refine ⟨v.stage, ?_, .rest other ?_⟩
    · change (w.selector.accepted call _).workers[i]? = _
      rw [Selector.State.workersAccepted, List.getElem?_append_left inside, found]
    · exact List.getElem?_append_left (counted ▸ inside)
  · exact ⟨v.stage, found, .rest other rfl⟩

/- A turn moves a worker by its own reading, its own step or its time limit, and by nothing else. -/
theorem workerTurn {g : Gateway} {w : World} {i : Nat} {v : Worker} (sound : Sound g w) (t : Turn)
    (found : w.selector.workers[i]? = some v) :
    ∃ stage, (w.turn t).selector.workers[i]? = some { v with stage } ∧
      WorkerTurn w (w.turn t) t i v.arrival v.stage stage := by
  cases idle : t.isWork with
  | false =>
    refine restTurn found (by rw [workersStill sound.unclosed idle]) (fun own => ?_) (by rw [callersStill idle])
    cases stage : v.stage with
    | settled =>
      rw [stage] at own
      cases own
    | peeking | peeked | found | ringing =>
      rw [stage] at own
      cases own
      cases idle
  | true =>
    cases t with
    | read j => exact readTurn sound j found
    | late j => exact lateTurn j found
    | route j => exact routeTurn sound.unclosed j found
    | arrive call peer stream => exact arriveTurn sound.counted call peer stream found
    | serve | serveStep | hiccup | listen | accept | take | ended | join | advance => cases idle

theorem newWorker {w : World} {i : Nat} {v : Worker} (t : Turn) (fresh : w.selector.workers[i]? = none)
    (found : (w.turn t).selector.workers[i]? = some v) :
    i = w.selector.workers.length ∧ v.arrival.connection = w.callers.length ∧
      v.stage = .peeking w.selector.setup.headerSize [] ∧
      ∃ stream, (w.turn t).callers = w.callers ++ [⟨stream, stream⟩] := by
  rcases turnActs w t with same | ⟨e, acts, same⟩
  · rw [same, fresh] at found
    cases found
  · rw [same, Selector.State.workersNew e fresh] at found
    cases acts with
    | @arrive call peer stream accepting =>
      have joins : w.selector.joins (.accepted call ⟨w.callers.length, peer⟩) =
          [w.selector.newWorker call ⟨w.callers.length, peer⟩] := if_pos accepting
      rw [joins] at found
      have bound := (List.getElem?_eq_some_iff.mp found).1
      rw [List.length_singleton] at bound
      have beyond := List.getElem?_eq_none_iff.mp fresh
      obtain rfl := List.mem_singleton.mp (List.mem_of_getElem? found)
      refine ⟨by omega, rfl, rfl, stream, ?_⟩
      simp only [World.turn, accepting, if_true]
    | read | late | route | serve | serveStep | hiccup | listen | accept | join | advance => cases found

end SharedPort.Gateway
