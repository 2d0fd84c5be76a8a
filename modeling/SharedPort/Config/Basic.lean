import SharedPort.Config.Names
import SharedPort.Json.Value
import SharedPort.Text.Basic

/-! The configuration: what to listen on, how to tell protocols apart, where to forward each, and the limits. It is
written as one object with all settings in their order, without those that are absent. -/
namespace SharedPort

structure RouteConfig where
  key : String
  target : String
  deriving DecidableEq, Repr

structure Config where
  network : Network := .tcp
  host : Option String := none
  port : UInt16 := 7000
  listenBacklog : UInt32 := 1024
  headerSize : UInt64 := 4
  matchMode : MatchMode := .equal
  peekTimeoutMs : UInt64 := 10000
  queueCapacity : UInt64 := 1024
  routes : List RouteConfig := []
  defaultTarget : Option String := none
  logLevel : String := "info"
  bufferSize : UInt64 := 8192
  connectionTimeout : UInt64 := 30
  deriving DecidableEq, Repr

namespace Config

inductive Field
  | network
  | host
  | port
  | listenBacklog
  | headerSize
  | matchMode
  | peekTimeoutMs
  | queueCapacity
  | routes
  | defaultTarget
  | logLevel
  | bufferSize
  | connectionTimeout
  deriving DecidableEq, Repr

namespace Field

def all : List Field :=
  [.network, .host, .port, .listenBacklog, .headerSize, .matchMode, .peekTimeoutMs, .queueCapacity, .routes,
    .defaultTarget, .logLevel, .bufferSize, .connectionTimeout]

def name : Field → String
  | .network => "network"
  | .host => "host"
  | .port => "port"
  | .listenBacklog => "listen_backlog"
  | .headerSize => "header_size"
  | .matchMode => "match_mode"
  | .peekTimeoutMs => "peek_timeout_ms"
  | .queueCapacity => "queue_capacity"
  | .routes => "routes"
  | .defaultTarget => "default_target"
  | .logLevel => "log_level"
  | .bufferSize => "buffer_size"
  | .connectionTimeout => "connection_timeout"

def ofName? (text : String) : Option Field := all.find? (·.name == text)

end Field

/-- Zero means no limit. -/
def peekTimeout (c : Config) : Option Span :=
  if 0 < c.peekTimeoutMs then some (.ofMillis c.peekTimeoutMs.toNat) else none

def queueLimit (c : Config) : Option Nat :=
  if 0 < c.queueCapacity then some c.queueCapacity.toNat else none

def connectTimeout (c : Config) : Span := .ofSeconds c.connectionTimeout.toNat

def listenDisplay (c : Config) : String :=
  let host := c.host.getD ""
  if host.toList.contains ':' then s!"{c.network.name}://[{host}]:{c.port.toNat}"
  else if host ≠ "" then s!"{c.network.name}://{host}:{c.port.toNat}"
  else s!"{c.network.name}://*:{c.port.toNat}"

end Config

structure Overrides where
  network : Option Network := none
  host : Option String := none
  port : Option UInt16 := none
  headerSize : Option UInt64 := none
  matchMode : Option MatchMode := none
  peekTimeoutMs : Option UInt64 := none
  logLevel : Option String := none
  deriving DecidableEq, Repr

def Overrides.apply (o : Overrides) (c : Config) : Config :=
  { c with
    network := o.network.getD c.network
    host := o.host.or c.host
    port := o.port.getD c.port
    headerSize := o.headerSize.getD c.headerSize
    matchMode := o.matchMode.getD c.matchMode
    peekTimeoutMs := o.peekTimeoutMs.getD c.peekTimeoutMs
    logLevel := o.logLevel.getD c.logLevel }

open Json.Printer in
def RouteConfig.toJson (r : RouteConfig) : List Char :=
  object [⟨"key", string r.key⟩, ⟨"target", string r.target⟩]

namespace Config
open Json.Printer

def writtenField (c : Config) : Field → Option (List Char)
  | .network => some (string c.network.name)
  | .host => c.host.map string
  | .port => some (number c.port.toNat)
  | .listenBacklog => some (number c.listenBacklog.toNat)
  | .headerSize => some (number c.headerSize.toNat)
  | .matchMode => some (string c.matchMode.name)
  | .peekTimeoutMs => some (number c.peekTimeoutMs.toNat)
  | .queueCapacity => some (number c.queueCapacity.toNat)
  | .routes => some (array (c.routes.map RouteConfig.toJson))
  | .defaultTarget => c.defaultTarget.map string
  | .logLevel => some (string c.logLevel)
  | .bufferSize => some (number c.bufferSize.toNat)
  | .connectionTimeout => some (number c.connectionTimeout.toNat)

def toJson (c : Config) : String :=
  String.ofList (object (Field.all.filterMap fun f => (c.writtenField f).map (Member.mk f.name)))

end Config
end SharedPort
