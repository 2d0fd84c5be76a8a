import SharedPort.Selector.Step

/-! A selector among clients, in virtual time: one schedule of the steps of `Selector.Step`. Whoever can go on does so
in the order in which it became able to, without being interrupted, until nobody can go on without new input or more
time. -/
namespace SharedPort.Selector
open SharedPort.Stream (Attempt Replay)

structure Client where
  unread : Bytes := []
  finished : Bool := false
  dropped : Bool := false
  shut : Bool := false
  received : Bytes := []
  deriving DecidableEq, Repr

def Client.read (room : Nat) (c : Client) : Attempt Bytes × Client :=
  if c.unread.isEmpty then (if c.finished || c.dropped then .done [] else .notReady .never, c)
  else (.done (c.unread.take room), { c with unread := c.unread.drop room })

def Client.isReadable (c : Client) : Bool := !c.unread.isEmpty || c.finished || c.dropped

inductive Incoming
  | idle (listener : Nat)
  | busy (listener waiter : Nat)
  | ended
  deriving DecidableEq, Repr

def Incoming.item? : Except Error Routed → Option (Except Error Routed)
  | .error .listenerClosed => none
  | result => some result

structure Simulation where
  state : State
  clients : List Client := []
  queued : List (Except Error Arrival) := []
  forgotten : List Nat := []
  incomings : List Incoming := []
  opened : List (Option Routed) := []

namespace Simulation

inductive Task
  | serve (call : Nat)
  | worker (number : Nat)
  | accept (call : Nat)
  deriving DecidableEq, Repr

def client? (s : Simulation) (i : Nat) : Option Client := s.clients[i]?

def setClient (s : Simulation) (i : Nat) (c : Client) : Simulation := { s with clients := s.clients.set i c }

def forgetQueued (s : Simulation) : Simulation :=
  if s.state.source.letGo.isSome then { s with queued := [] } else s

def canGoOn (s : Simulation) : Task → Bool
  | .serve i =>
      match s.state.serves[i]? with
      | some (.looping seen) => seen < s.state.signals || !s.queued.isEmpty
      | some (.returned _) | some .cancelled | none => false
      | _ => true
  | .worker i =>
      match s.state.workers[i]? with
      | some ⟨arrival, _, _, .peeking ..⟩ =>
          ((s.client? arrival.connection).any Client.isReadable) || s.state.isOverdue i
      | some w => !State.isSettled w
      | none => false
  | .accept i =>
      match s.state.accepts[i]? with
      | some ⟨listener, .sleeping⟩ => (s.state.listeners[listener]?).any (·.bell.isAwake i)
      | some ⟨_, .returned _⟩ | some ⟨_, .cancelled⟩ | none => false
      | _ => true

def stepTask (s : Simulation) : Task → Simulation
  | .serve i =>
      if s.state.isAccepting i then
        match s.queued with
        | [] => s
        | .ok arrival :: queued => { s with queued, state := s.state.accepted i arrival }
        | .error e :: queued => { s with queued, state := s.state.acceptFailed i e }
      else ({ s with state := s.state.serveStep i }).forgetQueued
  | .worker i =>
      match s.state.workers[i]? with
      | some ⟨arrival, _, _, .peeking missing _⟩ =>
          match s.client? arrival.connection with
          | none => s
          | some c =>
              if c.isReadable then
                let (attempt, c) := c.read missing
                ({ s with state := s.state.workerRead i attempt }).setClient arrival.connection c
              else { s with state := s.state.workerTimeout i }
      | _ => { s with state := s.state.workerStep i }
  | .accept i => { s with state := s.state.acceptStep i }

def runTask (task : Task) : Nat → Simulation → Simulation
  | 0, s => s
  | fuel + 1, s => if s.canGoOn task then runTask task fuel (s.stepTask task) else s

def tasks (s : Simulation) : List Task :=
  (List.range s.state.serves.length).map .serve ++ (List.range s.state.workers.length).map .worker ++
    (List.range s.state.accepts.length).map .accept

/-- A bound on the steps of one task: every listener may have to be closed, every queued connection accepted, every
byte of a prefix read on its own. -/
def taskFuel (s : Simulation) : Nat :=
  2 * s.state.listeners.length + s.queued.length + s.state.setup.headerSize + 32

/-- Runs tasks in turn. Those that become able to go on meanwhile are put at the end. -/
def settle : Nat → List Task → Simulation → Simulation
  | 0, _, s => s
  | fuel + 1, ready, s =>
      match ready ++ (s.tasks.filter fun t => s.canGoOn t && !ready.contains t) with
      | [] => s
      | task :: ready => settle fuel ready (runTask task s.taskFuel s)

def quiesce (s : Simulation) : Simulation :=
  settle (4 * (s.state.serves.length + s.state.workers.length + s.state.accepts.length + s.queued.length) + 32) [] s

def isPending : AcceptStage → Bool
  | .returned _ | .cancelled => false
  | _ => true

def isHeld (s : Simulation) (listener : Nat) : Bool :=
  !s.forgotten.contains listener || s.state.registry.listeners.contains listener ||
  s.state.accepts.any (fun a => a.listener = listener && isPending a.stage) ||
  s.incomings.any fun
    | .idle l | .busy l _ => l = listener
    | .ended => false

def workerHolds (c : Nat) (w : Worker) : Bool := !State.isSettled w && w.arrival.connection = c

def holds (s : Simulation) (c : Nat) : Bool :=
  s.queued.any (fun | .ok a => a.connection = c | .error _ => false) ||
  s.state.workers.any (workerHolds c) ||
  ((List.range s.state.listeners.length).zip s.state.listeners).any (fun (i, l) =>
    l.queue.items.any (·.stream.inner = c) && s.isHeld i) ||
  s.opened.any fun o => o.any (·.stream.inner = c)

def seesEnd (s : Simulation) (i : Nat) : Bool :=
  match s.client? i with
  | some c => !c.dropped && (c.shut || !s.holds i)
  | none => false

inductive Event
  | connection (waiter number : Nat) (routed : Routed)
  | acceptFailed (waiter : Nat) (cause : Error)
  | ended (waiter : Nat)
  | served (call : Nat) (result : Except Error Unit)
  | aborted (call : Nat)
  | clientClosed (client : Nat)

def wasPending (before : Simulation) (i : Nat) : Bool :=
  match before.state.accepts[i]? with
  | some a => isPending a.stage
  | none => true

def isIncoming (s : Simulation) (waiter : Nat) : Bool :=
  s.incomings.any fun
    | .busy _ w => w = waiter
    | _ => false

def noteIncoming (s : Simulation) (waiter : Nat) (goesOn : Bool) : Simulation :=
  { s with incomings := s.incomings.map fun
      | .busy l w => if w = waiter then (if goesOn then .idle l else .ended) else .busy l w
      | other => other }

def acceptEvents (before : Simulation) : Nat → List Accept → Simulation → List Event × Simulation
  | _, [], s => ([], s)
  | i, a :: rest, s =>
      let (event, s) : List Event × Simulation :=
        if !before.wasPending i then ([], s)
        else
          match a.stage with
          | .returned result =>
              if s.isIncoming i && (Incoming.item? result).isNone then ([.ended i], s.noteIncoming i false)
              else
                match result with
                | .ok routed =>
                    ([.connection i s.opened.length routed],
                      { s.noteIncoming i true with opened := s.opened ++ [some routed] })
                | .error e => ([.acceptFailed i e], s.noteIncoming i true)
          | _ => ([], s)
      let (events, s) := acceptEvents before (i + 1) rest s
      (event ++ events, s)

def isServing : Option ServeStage → Bool
  | some (.returned _) | some .cancelled => false
  | _ => true

def serveEvents (before s : Simulation) : List Event :=
  ((List.range s.state.serves.length).zip s.state.serves).filterMap fun (i, stage) =>
    if !isServing before.state.serves[i]? then none
    else
      match stage with
      | .returned result => some (.served i result)
      | .cancelled => some (.aborted i)
      | _ => none

def clientEvents (before s : Simulation) : List Event :=
  (List.range s.clients.length).filterMap fun i =>
    if s.seesEnd i && !before.seesEnd i then some (.clientClosed i) else none

def events (before s : Simulation) : List Event × Simulation :=
  let (accepts, s) := acceptEvents before 0 s.state.accepts s
  (accepts ++ serveEvents before s ++ clientEvents before s, s)

end Simulation
end SharedPort.Selector
