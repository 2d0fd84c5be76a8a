import SharedPort.Listener
import SharedPort.Registry
import SharedPort.Selector.Options
import SharedPort.Stream.Replay

/-! The state of a selector at work: what is shared, and how far each call and each worker has come. Calls of every kind
may be under way at the same time. Each one moves by steps that nothing can come between; the steps are in
`Selector.Step`. -/
namespace SharedPort.Selector
open SharedPort.Stream (Gather Replay)

structure Arrival where
  connection : Nat
  peer : SocketAddress
  deriving DecidableEq, Repr

structure Routed where
  stream : Replay Nat
  peer : SocketAddress
  deriving Repr

inductive Fate
  | queued (listener : Nat)
  | peekFailed (cause : Error)
  | unroutable
  | rejected (listener : Nat) (why : Listener.Refusal)
  | aborted
  deriving DecidableEq, Repr

inductive WorkerStage
  | peeking (missing : Nat) (got : Bytes)
  | peeked (header : Bytes)
  | found (header : Bytes) (listener : Nat)
  | ringing (listener : Nat)
  | settled (fate : Fate)
  deriving DecidableEq, Repr

structure Worker where
  arrival : Arrival
  owner : Nat
  deadline : Option Nat
  stage : WorkerStage
  deriving DecidableEq, Repr

inductive CloseStage
  | swapping
  | signalling
  | taking
  | closingSource
  | draining
  | closing (left : List Nat)
  | ringing (listener : Nat) (left : List Nat)
  | returned
  deriving DecidableEq, Repr

/-- `looping seen` is the accept loop of a call that subscribed when `seen` signals had been given. -/
inductive ServeStage
  | taking
  | withoutSource
  | subscribing
  | checking (seen : Nat)
  | looping (seen : Nat)
  | closingSource (result : Except Error Unit)
  | closing (stage : CloseStage) (result : Except Error Unit)
  | aborting (result : Except Error Unit)
  | returned (result : Except Error Unit)
  | cancelled

inductive ListenerCloseStage
  | closing
  | ringing
  | returned (wasOpen : Bool)
  deriving DecidableEq, Repr

structure ListenerClose where
  listener : Nat
  stage : ListenerCloseStage
  deriving DecidableEq, Repr

inductive AcceptStage
  | begun
  | entering
  | looking
  | sleeping
  | leaving (result : Except Error Routed)
  | returned (result : Except Error Routed)
  | cancelled

structure Accept where
  listener : Nat
  stage : AcceptStage

structure Source where
  closes : Nat := 0
  letGo : Option Nat := none
  deriving DecidableEq, Repr

structure Counts where
  accepted : Nat := 0
  routed : Nat := 0
  rejected : Nat := 0
  unroutable : Nat := 0
  peekFailed : Nat := 0
  deriving DecidableEq, Repr

/-- `parked` says that the source waits for a serve call. Listeners, workers and calls are numbered in the order of
their beginning. -/
structure State where
  setup : Setup
  now : Nat := 0
  closed : Bool := false
  signals : Nat := 0
  parked : Bool := true
  source : Source := {}
  registry : Registry := {}
  listeners : List (Listener Routed) := []
  workers : List Worker := []
  serves : List ServeStage := []
  closes : List CloseStage := []
  listenerCloses : List ListenerClose := []
  accepts : List Accept := []
  counts : Counts := {}

namespace State

def create (setup : Setup) : Except Error State := do
  checkHeaderSize setup.headerSize
  return { setup }

def setListener (s : State) (i : Nat) (change : Listener Routed → Listener Routed) : State :=
  { s with listeners := s.listeners.modify i change }

def setWorker (s : State) (i : Nat) (stage : WorkerStage) : State :=
  { s with workers := s.workers.modify i ({ · with stage }) }

def setServe (s : State) (i : Nat) (stage : ServeStage) : State := { s with serves := s.serves.set i stage }

def setAccept (s : State) (i : Nat) (stage : AcceptStage) : State :=
  { s with accepts := s.accepts.modify i ({ · with stage }) }

def closeQueue (s : State) (i : Nat) : Bool × State :=
  match s.listeners[i]? with
  | none => (false, s)
  | some l =>
      let (wasOpen, queue) := l.queue.close
      (wasOpen, s.setListener i ({ · with queue }))

def ringAll (s : State) (i : Nat) : State := s.setListener i fun l => { l with bell := l.bell.ringAll }

def ringOne (s : State) (i : Nat) : State := s.setListener i fun l => { l with bell := l.bell.ringOne }

def dropSource (s : State) : State :=
  { s with source := { s.source with letGo := s.source.letGo.or (some s.source.closes) } }

def closeSource (s : State) : State := { s with source := { s.source with closes := s.source.closes + 1 } }

def newListener (s : State) (key : Option Bytes) : Listener Routed :=
  { key, address := s.setup.address, capacity := s.setup.options.queueCapacity }

end State
end SharedPort.Selector
