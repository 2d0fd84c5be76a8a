import SharedPort.Selector.Simulation
import SharedPort.Stream.Replay

/-! What can be done to a simulated selector and its clients from outside, and the answer to each. -/
namespace SharedPort.Selector
open SharedPort.Stream (Attempt Replay)

inductive Command
  | register (key : Bytes)
  | registerDefault
  | unregister (key : Bytes)
  | unregisterDefault
  | keys
  | status
  | serve
  | abortServe (call : Nat)
  | close
  | connect (data : Bytes) (finish : Bool) (peer : Option SocketAddress)
  | acceptError (cause : Error)
  | send (client : Nat) (data : Bytes)
  | finish (client : Nat)
  | dropClient (client : Nat)
  | received (client : Nat)
  | accept (listener : Nat)
  | cancel (waiter : Nat)
  | incoming (listener : Nat)
  | next (incoming : Nat)
  | closeListener (listener : Nat)
  | describe (listener : Nat)
  | forget (listener : Nat)
  | read (connection room : Nat)
  | readAll (connection : Nat)
  | write (connection : Nat) (data : Bytes)
  | shutdown (connection : Nat)
  | inspect (connection : Nat)
  | dropConnection (connection : Nat)
  | advance (length : Nat)

inductive Reply
  | done
  | failed (cause : Error)
  | noSuchIndex
  | flag (value : Bool)
  | number (value : Nat)
  | keys (keys : List Bytes)
  | status
  | refused
  | sent
  | broken
  | gone
  | bytes (data : Bytes)
  | everything (data : Bytes) (atEnd : Bool)
  | wouldBlock
  | writeFailed
  | listener (l : Listener Routed)
  | connection (stream : Replay Nat)

namespace Simulation

def handle? (s : Simulation) (i : Nat) : Option (Listener Routed) :=
  if s.forgotten.contains i then none else s.state.listeners[i]?

def opened? (s : Simulation) (i : Nat) : Option Routed := (s.opened[i]?).join

def readOpened (s : Simulation) (r : Routed) (room : Nat) : Attempt Bytes × Routed × Simulation :=
  let readClient : Stream.ReadOp (Nat × Simulation) := fun _ room (i, s) =>
    match s.client? i with
    | none => (.done [], i, s)
    | some c =>
        let (attempt, c) := c.read room
        (attempt, i, s.setClient i c)
  let (attempt, stream) := Replay.read readClient 0 room { r.stream with inner := (r.stream.inner, s) }
  (attempt, { r with stream := { stream with inner := stream.inner.1 } }, stream.inner.2)

def setOpened (s : Simulation) (i : Nat) (r : Option Routed) : Simulation := { s with opened := s.opened.set i r }

def finishCalls (s : Simulation) : Simulation :=
  let closes := List.range s.state.closes.length
  let listenerCloses := List.range s.state.listenerCloses.length
  let rounds := List.range (2 * s.state.listeners.length + 16)
  let state := rounds.foldl (fun st _ => closes.foldl State.closeStep (listenerCloses.foldl State.listenerCloseStep st))
    s.state
  ({ s with state }).forgetQueued

def registered (s : Simulation) (r : Except Error Nat × State) : Reply × Simulation :=
  match r with
  | (.ok i, state) => (.number i, { s with state })
  | (.error e, _) => (.failed e, s)

def connect (s : Simulation) (data : Bytes) (finish : Bool) (peer : Option SocketAddress) : Reply × Simulation :=
  if s.state.source.letGo.isSome then (.refused, s)
  else
    let i := s.clients.length
    let peer := peer.getD ⟨.v4 10 0 0 1, .ofNat (1000 + i)⟩
    (.number i,
      { s with
        clients := s.clients ++ [{ unread := data, finished := finish }]
        queued := s.queued ++ [.ok ⟨i, peer⟩] })

def send (s : Simulation) (i : Nat) (data : Bytes) : Reply × Simulation :=
  match s.client? i with
  | none => (.noSuchIndex, s)
  | some c =>
      if c.dropped then (.gone, s)
      else if data.isEmpty then (.sent, s)
      else if c.finished || !s.holds i then (.broken, s)
      else (.sent, s.setClient i { c with unread := c.unread ++ data })

def write (s : Simulation) (r : Routed) (data : Bytes) : Reply × Simulation :=
  match s.client? r.stream.inner with
  | none => (.noSuchIndex, s)
  | some c =>
      if data.isEmpty then (.done, s)
      else if c.dropped || c.shut then (.writeFailed, s)
      else (.done, s.setClient r.stream.inner { c with received := c.received ++ data })

def readAll : Nat → Bytes → Routed → Simulation → Bytes × Bool × Routed × Simulation
  | 0, got, r, s => (got, false, r, s)
  | fuel + 1, got, r, s =>
      match s.readOpened r Stream.ampleRoom with
      | (.done [], r, s) => (got, true, r, s)
      | (.done data, r, s) => readAll fuel (got ++ data) r s
      | (_, r, s) => (got, false, r, s)

def onClient (s : Simulation) (i : Nat) (act : Client → Reply × Client) : Reply × Simulation :=
  match s.client? i with
  | none => (.noSuchIndex, s)
  | some c =>
      let (reply, c) := act c
      (reply, s.setClient i c)

def onHandle (s : Simulation) (i : Nat) (act : Listener Routed → Reply × Simulation) : Reply × Simulation :=
  match s.handle? i with
  | none => (.noSuchIndex, s)
  | some l => act l

def onOpened (s : Simulation) (i : Nat) (act : Routed → Reply × Simulation) : Reply × Simulation :=
  match s.opened? i with
  | none => (.noSuchIndex, s)
  | some r => act r

def onState (s : Simulation) (change : State → State) : Simulation := { s with state := change s.state }

def beginAccept (s : Simulation) (listener : Nat) : Nat × Simulation :=
  (s.state.accepts.length, s.onState (·.beginAccept listener))

def start (s : Simulation) : Command → Reply × Simulation
  | .register key => s.registered (s.state.register key)
  | .registerDefault => s.registered s.state.registerDefault
  | .unregister key =>
      match s.state.unregister key with
      | (.ok (), state) => (.done, { s with state }.finishCalls)
      | (.error e, _) => (.failed e, s)
  | .unregisterDefault =>
      let (found, state) := s.state.unregisterDefault
      (.flag found, { s with state }.finishCalls)
  | .keys => (.keys s.state.registry.keys, s)
  | .status => (.status, s)
  | .serve => (.number s.state.serves.length, s.onState State.beginServe)
  | .abortServe i =>
      if i < s.state.serves.length then (.done, (s.onState (·.cancelServe i)).forgetQueued) else (.noSuchIndex, s)
  | .close => (.done, (s.onState State.beginClose).finishCalls)
  | .connect data finish peer => s.connect data finish peer
  | .acceptError e =>
      if s.state.source.letGo.isSome then (.refused, s)
      else (.done, { s with queued := s.queued ++ [.error e] })
  | .send i data => s.send i data
  | .finish i => s.onClient i fun c => (.done, { c with finished := true })
  | .dropClient i => s.onClient i fun c => (.done, { c with dropped := true, received := [] })
  | .received i => s.onClient i fun c => (.bytes c.received, { c with received := [] })
  | .accept i => s.onHandle i fun _ => let (w, s) := s.beginAccept i; (.number w, s)
  | .cancel w =>
      if w < s.state.accepts.length then
        (.done, (s.onState (·.cancelAccept w)).noteIncoming w false)
      else (.noSuchIndex, s)
  | .incoming i => s.onHandle i fun _ => (.number s.incomings.length, { s with incomings := s.incomings ++ [.idle i] })
  | .next k =>
      match s.incomings[k]? with
      | some (.idle l) =>
          let (w, s) := s.beginAccept l
          (.number w, { s with incomings := s.incomings.set k (.busy l w) })
      | _ => (.noSuchIndex, s)
  | .closeListener i => s.onHandle i fun l => (.flag !l.isClosed, (s.onState (·.beginListenerClose i)).finishCalls)
  | .describe i => s.onHandle i fun l => (.listener l, s)
  | .forget i => s.onHandle i fun _ => (.done, { s with forgotten := i :: s.forgotten })
  | .read i room => s.onOpened i fun r =>
      let (attempt, r, s) := s.readOpened r room
      let reply := match attempt with
        | .done data => .bytes data
        | _ => .wouldBlock
      (reply, s.setOpened i (some r))
  | .readAll i => s.onOpened i fun r =>
      let (data, atEnd, r, s) := readAll 4 [] r s
      (.everything data atEnd, s.setOpened i (some r))
  | .write i data => s.onOpened i fun r => s.write r data
  | .shutdown i => s.onOpened i fun r => s.onClient r.stream.inner fun c => (.done, { c with shut := true })
  | .inspect i => s.onOpened i fun r => (.connection r.stream, s)
  | .dropConnection i => s.onOpened i fun _ => (.done, s.setOpened i none)
  | .advance length => (.done, s.onState ({ · with now := s.state.now + length }))

def perform (s : Simulation) (c : Command) : Reply × List Event × Simulation :=
  let (reply, after) := s.start c
  let (events, after) := s.events after.quiesce
  (reply, events, after)

end Simulation
end SharedPort.Selector
