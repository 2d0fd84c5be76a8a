import SharedPort.Config.Basic
import SharedPort.Log
import SharedPort.Net.Listen
import SharedPort.Registry

/-! Which configurations can be used, and what is worth a warning in one that can. The checks go from the listener to
the routes to the rest and stop at the first fault. -/
namespace SharedPort.Config
open Log (Entry Logged)

def validHeaderSize (n : Nat) : Bool := 0 < n && n ≤ maxHeaderSize

def validateListener (c : Config) : Except Error Unit := do
  if !validHeaderSize c.headerSize.toNat then
    .error (.invalidHeaderSize c.headerSize.toNat)
  else
    match c.host.bind IpAddress.ofText? with
    | some ip =>
        if !c.network.accepts ip then .error (.config (.hostOutsideNetwork ip c.network))
    | none => pure ()
    if c.listenBacklog = 0 then .error (.config (.notPositive .listenBacklog))

def validateTarget (owner : TargetOwner) (target : String) : Except Error Unit := do
  match (← HostPort.parse target).host with
  | some _ => return ()
  | none => .error (.config (.targetWithoutHost owner target))

def validateRoute (mode : MatchMode) (headerSize : Nat) (seen : List Bytes) (r : RouteConfig) : Except Error Unit := do
  let key := Utf8.encode r.key
  if key.isEmpty then .error (.invalidKeyLength r.key 0 .empty)
  else if headerSize < key.length then
    .error (.invalidKeyLength r.key key.length (.longerThanConfigured headerSize))
  else
    mode.validateKey key headerSize
    if seen.contains key then .error (.duplicateKey r.key)
    else validateTarget (.route r.key) r.target

def validateRoutesFrom (mode : MatchMode) (headerSize : Nat) : List Bytes → List RouteConfig → Except Error Unit
  | _, [] => .ok ()
  | seen, r :: rest => do
      validateRoute mode headerSize seen r
      validateRoutesFrom mode headerSize (Utf8.encode r.key :: seen) rest

def validateRoutes (c : Config) : Except Error Unit := do
  validateRoutesFrom c.matchMode c.headerSize.toNat [] c.routes
  match c.defaultTarget with
  | some target => validateTarget .unmatched target
  | none => return ()

/-- The level names that need no warning: exactly those written in small letters. -/
def knownLogLevel (level : String) : Bool := Log.Level.all.any (·.name == level)

def logLevelWarnings (c : Config) : List Entry :=
  if knownLogLevel c.logLevel then []
  else [⟨.warn, .validator, s!"Invalid log level: {c.logLevel}. Using default: info"⟩]

def validateGeneral (c : Config) : Except Error Unit :=
  if c.bufferSize = 0 then .error (.config (.notPositive .bufferSize))
  else if c.connectionTimeout = 0 then .error (.config (.notPositive .connectionTimeout))
  else .ok ()

/-- Checks the whole configuration. The log level is looked at once listener and routes are well. -/
def validate (c : Config) : Logged (Except Error Unit) :=
  match (do validateListener c; validateRoutes c : Except Error Unit) with
  | .error e => ⟨.error e, []⟩
  | .ok () => ⟨validateGeneral c, logLevelWarnings c⟩

inductive Warning
  | noRoutes
  | noDefaultTarget
  | shadowed (earlier later : String)
  | noPeekTimeout
  | unboundedQueues
  | smallBuffer (size : Nat)
  deriving DecidableEq, Repr

def Warning.message : Warning → String
  | .noRoutes => "No routes configured: every connection will be closed"
  | .noDefaultTarget => "No default_target: connections matching no key will be closed"
  | .shadowed earlier later =>
      s!"Key {Quoted.text earlier} shadows later key {Quoted.text later}; the first registered match wins"
  | .noPeekTimeout => "peek_timeout_ms is 0: silent clients can hold a connection open forever"
  | .unboundedQueues => "queue_capacity is 0: virtual listener queues are unbounded"
  | .smallBuffer size => s!"Buffer size is very small ({size} bytes). This may impact performance."

def shadows (earlier later : RouteConfig) : Bool :=
  (Utf8.encode earlier.key).isPrefixOf (Utf8.encode later.key)

def shadowWarnings : List RouteConfig → List Warning
  | [] => []
  | earlier :: rest =>
      (rest.filter (shadows earlier)).map (fun later => .shadowed earlier.key later.key) ++ shadowWarnings rest

def check (c : Config) : List Warning :=
  (if c.defaultTarget.isSome then []
    else if c.routes.isEmpty then [.noRoutes] else [.noDefaultTarget]) ++
  shadowWarnings c.routes ++
  (if c.peekTimeoutMs = 0 then [.noPeekTimeout] else []) ++
  (if c.queueCapacity = 0 then [.unboundedQueues] else []) ++
  (if c.bufferSize < 1024 then [.smallBuffer c.bufferSize.toNat] else [])

end SharedPort.Config
