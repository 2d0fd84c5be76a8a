import SharedPort.Config.Basic
import SharedPort.Config.Settings.Reader
import SharedPort.Files
import SharedPort.Text.Basic

/-! The failures of the library as values, those of configurations among them: causes, not texts. The wording is in one
function for each kind. -/
namespace SharedPort

inductive LoadFault
  | noFile (path : String)
  | unreadable (cause : FileFault)
  | malformed
  | notMapping (found : Settings.Shape) (file : String)
  deriving DecidableEq, Repr

def LoadFault.message : LoadFault → String
  | .noFile path => s!"configuration file \"{path}\" not found"
  | .unreadable cause => cause.message
  | .malformed => Json.Fault.malformed.message
  | .notMapping found file => s!"invalid type: {found.describeStored}, expected a map in {file} in {file}"

inductive TargetOwner
  | route (key : String)
  | unmatched
  deriving DecidableEq, Repr

def TargetOwner.describe : TargetOwner → String
  | .route key => s!"Target for key {Quoted.text key}"
  | .unmatched => "default_target"

inductive ConfigFault
  | invalidMatchMode (name : String)
  | missingPort (address : String)
  | invalidPort (address : String) (cause : Decimal.Fault)
  | addressOutsideNetwork (ip : IpAddress) (network : Network)
  | hostOutsideNetwork (ip : IpAddress) (network : Network)
  | unresolved (host : String) (cause : String)
  | noAddress (network : Network) (host : String)
  | notPositive (field : Config.Field)
  | targetWithoutHost (owner : TargetOwner) (target : String)
  | invalidDocument (cause : Json.Fault)
  | invalidFile (path : String) (cause : Json.Fault)
  | unreadableFile (path : String) (cause : FileFault)
  | fileNotFound (path : String)
  | unloadable (cause : LoadFault)
  | invalidSettings (cause : Settings.Fault)
  | other (message : String)
  deriving DecidableEq, Repr

def ConfigFault.message : ConfigFault → String
  | .invalidMatchMode name => MatchMode.invalidText name
  | .missingPort address => s!"Missing port in address: {address}"
  | .invalidPort address cause => s!"Invalid port in address {address}: {cause.message}"
  | .addressOutsideNetwork ip network => s!"Address {ip.render} does not belong to network {network.name}"
  | .hostOutsideNetwork ip network => s!"Host {ip.render} does not belong to network {network.name}"
  | .unresolved host cause => s!"Failed to resolve {host}: {cause}"
  | .noAddress network host => s!"No {network.name} address found for host {host}"
  | .notPositive field => s!"{field.name} must be greater than 0"
  | .targetWithoutHost owner target => s!"{owner.describe} has no host: {target}"
  | .invalidDocument cause => s!"Failed to parse JSON config: {cause.message}"
  | .invalidFile path cause => s!"Failed to parse JSON config file {path}: {cause.message}"
  | .unreadableFile path cause => s!"Failed to read config file {path}: {cause.message}"
  | .fileNotFound path => s!"Configuration file not found: {path}"
  | .unloadable cause => s!"Failed to load configuration: {cause.message}"
  | .invalidSettings cause => s!"Invalid configuration: {cause.message}"
  | .other message => message

inductive IoKind
  | connectionReset
  | connectionAborted
  | connectionRefused
  | interrupted
  | permissionDenied
  | brokenPipe
  | notConnected
  | addressInUse
  | invalidInput
  | timedOut
  | unexpectedEnd
  | wouldBlock
  | notFound
  | writeZero
  | other
  deriving DecidableEq, Repr

def IoKind.describe : IoKind → String
  | .connectionReset => "connection reset"
  | .connectionAborted => "connection aborted"
  | .connectionRefused => "connection refused"
  | .interrupted => "operation interrupted"
  | .permissionDenied => "permission denied"
  | .brokenPipe => "broken pipe"
  | .notConnected => "not connected"
  | .addressInUse => "address in use"
  | .invalidInput => "invalid input parameter"
  | .timedOut => "timed out"
  | .unexpectedEnd => "unexpected end of file"
  | .wouldBlock => "operation would block"
  | .notFound => "entity not found"
  | .writeZero => "write zero"
  | .other => "other error"

structure IoError where
  kind : IoKind
  text : Option String := none
  deriving DecidableEq, Repr

namespace IoError

def message (e : IoError) : String := e.text.getD e.kind.describe

def earlyEnd : IoError := ⟨.unexpectedEnd, some "early eof"⟩

def writeZero : IoError := ⟨.writeZero, none⟩

/-- One connection went wrong on its way in; the next one may be well. -/
def isTransient (e : IoError) : Bool :=
  e.kind = .connectionAborted ∨ e.kind = .connectionReset ∨ e.kind = .interrupted

end IoError

def maxHeaderSize : Nat := 65536

inductive KeyFault
  | empty
  | longerThanHeader (headerSize : Nat)
  | longerThanConfigured (headerSize : Nat)
  | notExact (headerSize : Nat)
  | other (reason : String)
  deriving DecidableEq, Repr

def KeyFault.reason : KeyFault → String
  | .empty => "keys must not be empty"
  | .longerThanHeader n => s!"longer than the header size of {n}"
  | .longerThanConfigured n => s!"longer than header size {n}"
  | .notExact n => s!"this match mode requires exactly {n} bytes"
  | .other reason => reason

inductive Error
  | io (cause : IoError)
  | config (cause : ConfigFault)
  | invalidHeaderSize (size : Nat)
  | invalidKeyLength (key : String) (length : Nat) (cause : KeyFault)
  | duplicateKey (key : String)
  | unknownKey (key : String)
  | duplicateDefault
  | unsupportedNetwork (name : String)
  | peekTimeout (limit : Span)
  | listenerClosed
  | selectorClosed
  | alreadyServing
  | accept (cause : IoError)
  | other (message : String)
  deriving DecidableEq, Repr

namespace Error

def message : Error → String
  | .io cause => s!"IO error: {cause.message}"
  | .config cause => s!"Configuration error: {cause.message}"
  | .invalidHeaderSize size => s!"Invalid header size: {size} (expected 1 to {maxHeaderSize})"
  | .invalidKeyLength key length cause =>
      s!"Invalid key length for {Quoted.text key}: {length} bytes, {cause.reason}"
  | .duplicateKey key => s!"Duplicate key: {Quoted.text key}"
  | .unknownKey key => s!"Unknown key: {Quoted.text key}"
  | .duplicateDefault => "Default listener already registered"
  | .unsupportedNetwork name => Network.unsupportedMessage name
  | .peekTimeout limit => s!"Timed out after {limit.render} waiting for protocol prefix"
  | .listenerClosed => "Listener closed"
  | .selectorClosed => "Selector closed"
  | .alreadyServing => "Selector is already serving"
  | .accept cause => s!"Accept error: {cause.message}"
  | .other message => s!"Other error: {message}"

def isConfig : Error → Bool
  | .config _ | .invalidHeaderSize _ | .invalidKeyLength .. | .duplicateKey _ | .unknownKey _ | .duplicateDefault
  | .unsupportedNetwork _ => true
  | _ => false

def isClosed : Error → Bool
  | .listenerClosed | .selectorClosed => true
  | _ => false

end Error
end SharedPort
