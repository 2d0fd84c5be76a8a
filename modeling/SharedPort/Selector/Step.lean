import SharedPort.Selector.State

/-! The steps of calls and workers. Each is one change of the shared state: a read or swap of the closed flag, a section
under one lock, one ring of a bell. Steps of different calls may come in any order. -/
namespace SharedPort.Selector.State
open SharedPort.Stream (Attempt Gather Replay)

/-- Registers a key, unless the selector is closed or the key is taken. Checks and insertion are one section. -/
def register (s : State) (key : Bytes) : Except Error Nat × State :=
  let attempt : Except Error Registry := do
    s.setup.validateKey key
    if s.closed then .error .selectorClosed else s.registry.insert key s.listeners.length
  match attempt with
  | .error e => (.error e, s)
  | .ok registry =>
      (.ok s.listeners.length, { s with registry, listeners := s.listeners ++ [s.newListener (some key)] })

def registerDefault (s : State) : Except Error Nat × State :=
  let attempt : Except Error Registry :=
    if s.closed then .error .selectorClosed else s.registry.setDefault s.listeners.length
  match attempt with
  | .error e => (.error e, s)
  | .ok registry =>
      (.ok s.listeners.length, { s with registry, listeners := s.listeners ++ [s.newListener none] })

def beginListenerClose (s : State) (listener : Nat) : State :=
  { s with listenerCloses := s.listenerCloses ++ [⟨listener, .closing⟩] }

def unregister (s : State) (key : Bytes) : Except Error Unit × State :=
  match s.registry.remove key with
  | .error e => (.error e, s)
  | .ok (listener, registry) => (.ok (), { s with registry }.beginListenerClose listener)

def unregisterDefault (s : State) : Bool × State :=
  match s.registry.takeDefault with
  | (none, _) => (false, s)
  | (some listener, registry) => (true, { s with registry }.beginListenerClose listener)

def listenerCloseStep (s : State) (i : Nat) : State :=
  match s.listenerCloses[i]? with
  | some ⟨listener, .closing⟩ =>
      let (wasOpen, s) := s.closeQueue listener
      { s with listenerCloses := s.listenerCloses.set i ⟨listener, if wasOpen then .ringing else .returned false⟩ }
  | some ⟨listener, .ringing⟩ =>
      { s.ringAll listener with listenerCloses := s.listenerCloses.set i ⟨listener, .returned true⟩ }
  | _ => s

def closeAdvance (s : State) : CloseStage → CloseStage × State
  | .swapping => if s.closed then (.returned, s) else (.signalling, { s with closed := true })
  | .signalling => (.taking, { s with signals := s.signals + 1 })
  | .taking => if s.parked then (.closingSource, { s with parked := false }) else (.draining, s)
  | .closingSource => (.draining, s.closeSource.dropSource)
  | .draining => (.closing s.registry.listeners, { s with registry := {} })
  | .closing [] => (.returned, s)
  | .closing (listener :: left) =>
      let (wasOpen, s) := s.closeQueue listener
      (if wasOpen then .ringing listener left else .closing left, s)
  | .ringing listener left => (.closing left, s.ringAll listener)
  | .returned => (.returned, s)

def beginClose (s : State) : State := { s with closes := s.closes ++ [.swapping] }

def closeStep (s : State) (i : Nat) : State :=
  match s.closes[i]? with
  | none => s
  | some stage =>
      let (stage, s) := s.closeAdvance stage
      { s with closes := s.closes.set i stage }

def beginServe (s : State) : State := { s with serves := s.serves ++ [.taking] }

/-- Drops the connections that the workers of a serve call still read. A worker that has its prefix does not wait for
anything any more and goes on to its end. -/
def abortWorkers (s : State) (owner : Nat) : State :=
  { s with workers := s.workers.map fun w =>
      match w.stage with
      | .peeking .. => if w.owner = owner then { w with stage := .settled .aborted } else w
      | _ => w }

def isSettled (w : Worker) : Bool :=
  match w.stage with
  | .settled _ => true
  | _ => false

def isDone (s : State) (owner : Nat) : Bool := s.workers.all fun w => w.owner ≠ owner || isSettled w

def serveStep (s : State) (i : Nat) : State :=
  match s.serves[i]? with
  | some .taking =>
      if s.parked then { s with parked := false }.setServe i .subscribing else s.setServe i .withoutSource
  | some .withoutSource => s.setServe i (.returned (if s.closed then .ok () else .error .alreadyServing))
  | some .subscribing => s.setServe i (.checking s.signals)
  | some (.checking seen) =>
      if s.closed then s.dropSource.setServe i (.returned (.ok ())) else s.setServe i (.looping seen)
  | some (.looping seen) => if seen < s.signals then s.setServe i (.closingSource (.ok ())) else s
  | some (.closingSource result) => s.closeSource.dropSource.setServe i (.closing .swapping result)
  | some (.closing .returned result) => s.setServe i (.aborting result)
  | some (.closing stage result) =>
      let (stage, s) := s.closeAdvance stage
      s.setServe i (.closing stage result)
  | some (.aborting result) =>
      let s := s.abortWorkers i
      if s.isDone i then s.setServe i (.returned result) else s
  | _ => s

def isAccepting (s : State) (i : Nat) : Bool :=
  match s.serves[i]? with
  | some (.looping seen) => s.signals ≤ seen
  | _ => false

def accepted (s : State) (i : Nat) (arrival : Arrival) : State :=
  if s.isAccepting i then
    let deadline := s.setup.options.peekTimeout.map (s.now + ·.millis)
    { s with
      workers := s.workers ++ [⟨arrival, i, deadline, .peeking s.setup.headerSize []⟩]
      counts := { s.counts with accepted := s.counts.accepted + 1 } }
  else s

def endOfLoop : Error → Option Error
  | .io cause => if cause.isTransient then none else some (.accept cause)
  | e => some e

def acceptFailed (s : State) (i : Nat) (e : Error) : State :=
  if s.isAccepting i then
    match endOfLoop e with
    | none => s
    | some e => s.setServe i (.closingSource (.error e))
  else s

def cancelServe (s : State) (i : Nat) : State :=
  match s.serves[i]? with
  | some .taking => s.setServe i .cancelled
  | some (.looping _) => ((s.abortWorkers i).dropSource).setServe i .cancelled
  | some (.aborting _) => (s.abortWorkers i).setServe i .cancelled
  | _ => s

def settle (s : State) (i : Nat) (fate : Fate) : State :=
  let c := s.counts
  let counts := match fate with
    | .queued _ => { c with routed := c.routed + 1 }
    | .peekFailed _ => { c with peekFailed := c.peekFailed + 1 }
    | .unroutable => { c with unroutable := c.unroutable + 1 }
    | .rejected .. => { c with rejected := c.rejected + 1 }
    | .aborted => c
  { s with counts }.setWorker i (.settled fate)

def workerRead (s : State) (i : Nat) (attempt : Attempt Bytes) : State :=
  match s.workers[i]? with
  | some ⟨_, _, _, .peeking missing got⟩ =>
      if attempt.fits missing then
        match Gather.feed missing got attempt with
        | .reading missing got => s.setWorker i (.peeking missing got)
        | .complete header => s.setWorker i (.peeked header)
        | .failed cause => s.settle i (.peekFailed (.io cause))
      else s
  | _ => s

def isOverdue (s : State) (i : Nat) : Bool :=
  match s.workers[i]? with
  | some ⟨_, _, some deadline, .peeking ..⟩ => deadline ≤ s.now
  | _ => false

def workerTimeout (s : State) (i : Nat) : State :=
  if s.isOverdue i then
    s.settle i (.peekFailed (.peekTimeout (s.setup.options.peekTimeout.getD ⟨0⟩)))
  else s

def deliver (s : State) (i : Nat) (arrival : Arrival) (header : Bytes) (listener : Nat) : State :=
  match s.listeners[listener]? with
  | none => s.settle i .unroutable
  | some l =>
      match l.queue.push l.capacity ⟨.ofHeader arrival.connection header, arrival.peer⟩ with
      | (.accepted, queue) => (s.setListener listener ({ · with queue })).setWorker i (.ringing listener)
      | (.refused why _, _) => s.settle i (.rejected listener why)

def workerStep (s : State) (i : Nat) : State :=
  match s.workers[i]? with
  | some ⟨_, _, _, .peeked header⟩ =>
      match s.registry.route s.setup.rule s.setup.headerSize header with
      | some listener => s.setWorker i (.found header listener)
      | none => s.settle i .unroutable
  | some ⟨arrival, _, _, .found header listener⟩ => s.deliver i arrival header listener
  | some ⟨_, _, _, .ringing listener⟩ => (s.ringOne listener).settle i (.queued listener)
  | _ => s

def beginAccept (s : State) (listener : Nat) : State :=
  { s with accepts := s.accepts ++ [⟨listener, .begun⟩] }

def leaveBell (s : State) (i listener : Nat) : State :=
  s.setListener listener fun l => { l with bell := l.bell.leave i }

def takeTicket (s : State) (i listener : Nat) : State :=
  s.setListener listener fun l => { l with bell := l.bell.take i }

def acceptStep (s : State) (i : Nat) : State :=
  match s.accepts[i]? with
  | some ⟨listener, .begun⟩ => (s.takeTicket i listener).setAccept i .looking
  | some ⟨listener, .entering⟩ => (s.takeTicket i listener).setAccept i .looking
  | some ⟨listener, .looking⟩ =>
      match s.listeners[listener]? with
      | none => s
      | some l =>
          match l.queue.pop with
          | (.item routed, queue) =>
              (s.setListener listener ({ · with queue })).setAccept i (.leaving (.ok routed))
          | (.closed, _) => s.setAccept i (.leaving (.error .listenerClosed))
          | (.empty, _) => s.setAccept i .sleeping
  | some ⟨listener, .leaving result⟩ => (s.leaveBell i listener).setAccept i (.returned result)
  | some ⟨listener, .sleeping⟩ =>
      if (s.listeners[listener]?).any (·.bell.isAwake i) then
        (s.setListener listener fun l => { l with bell := l.bell.pass i }).setAccept i .entering
      else s
  | _ => s

def canCancelAccept (s : State) (i : Nat) : Bool :=
  match s.accepts[i]? with
  | some ⟨_, .begun⟩ | some ⟨_, .sleeping⟩ => true
  | _ => false

def cancelAccept (s : State) (i : Nat) : State :=
  match s.accepts[i]? with
  | some ⟨_, .begun⟩ => s.setAccept i .cancelled
  | some ⟨listener, .sleeping⟩ => (s.leaveBell i listener).setAccept i .cancelled
  | _ => s

inductive Event
  | register (key : Bytes)
  | registerDefault
  | unregister (key : Bytes)
  | unregisterDefault
  | beginListenerClose (listener : Nat)
  | listenerCloseStep (call : Nat)
  | beginClose
  | closeStep (call : Nat)
  | beginServe
  | serveStep (call : Nat)
  | accepted (call : Nat) (arrival : Arrival)
  | acceptFailed (call : Nat) (cause : Error)
  | cancelServe (call : Nat)
  | workerRead (worker : Nat) (attempt : Attempt Bytes)
  | workerTimeout (worker : Nat)
  | workerStep (worker : Nat)
  | beginAccept (listener : Nat)
  | acceptStep (call : Nat)
  | cancelAccept (call : Nat)
  | advance (length : Nat)

def apply (s : State) : Event → State
  | .register key => (s.register key).2
  | .registerDefault => s.registerDefault.2
  | .unregister key => (s.unregister key).2
  | .unregisterDefault => s.unregisterDefault.2
  | .beginListenerClose listener => s.beginListenerClose listener
  | .listenerCloseStep call => s.listenerCloseStep call
  | .beginClose => s.beginClose
  | .closeStep call => s.closeStep call
  | .beginServe => s.beginServe
  | .serveStep call => s.serveStep call
  | .accepted call arrival => s.accepted call arrival
  | .acceptFailed call cause => s.acceptFailed call cause
  | .cancelServe call => s.cancelServe call
  | .workerRead worker attempt => s.workerRead worker attempt
  | .workerTimeout worker => s.workerTimeout worker
  | .workerStep worker => s.workerStep worker
  | .beginAccept listener => s.beginAccept listener
  | .acceptStep call => s.acceptStep call
  | .cancelAccept call => s.cancelAccept call
  | .advance length => { s with now := s.now + length }

def run (s : State) (events : List Event) : State := events.foldl apply s

end SharedPort.Selector.State
