import SharedPort.Config.Basic
import SharedPort.Json.Typed

/-! Reading a configuration from a document that names its settings, or lists them in order. What the document does not
give keeps its default; what it gives beyond the known settings is passed over. Faults are found in the order of the
text. -/
namespace SharedPort.Config
open Json

def duplicate (seen : Bool) (name : String) : Except Fault Unit :=
  if seen then .error (.duplicateField name) else .ok ()

def unknownMember (fuel : Nat) : Reader Unit := fun input => do
  let (_, input) ← colon input
  let input ← Skip.value fuel input
  return ((), input)

namespace RouteReader

structure Draft where
  key : Option String := none
  target : Option String := none

def member (fuel : Nat) (d : Draft) (name : String) : Reader Draft := fun input => do
  if name = "key" then
    duplicate d.key.isSome name
    let (_, input) ← colon input
    let (value, input) ← text input
    return ({ d with key := some value }, input)
  else if name = "target" then
    duplicate d.target.isSome name
    let (_, input) ← colon input
    let (value, input) ← text input
    return ({ d with target := some value }, input)
  else
    let (_, input) ← unknownMember fuel input
    return (d, input)

def element (d : Draft) : Reader Draft := fun input =>
  match d.key, d.target with
  | none, _ => do
      let (value, input) ← text input
      return ({ d with key := some value }, input)
  | some _, none => do
      let (value, input) ← text input
      return ({ d with target := some value }, input)
  | some _, some _ => .error .malformed

def ofMembers (d : Draft) : Except Fault RouteConfig :=
  match d.key, d.target with
  | none, _ => .error (.missingField "key")
  | _, none => .error (.missingField "target")
  | some key, some target => .ok ⟨key, target⟩

def ofElements (d : Draft) : Except Fault RouteConfig :=
  match d.key, d.target with
  | none, _ => .error (.tooShort 0)
  | _, none => .error (.tooShort 1)
  | some key, some target => .ok ⟨key, target⟩

def route (fuel : Nat) : Reader RouteConfig := fun input =>
  match skipBlank input with
  | '\x7b' :: rest => do
      let (d, rest) ← members (member fuel) fuel true {} rest
      return (← ofMembers d, rest)
  | '[' :: rest => do
      let (d, rest) ← elements element fuel true {} rest
      return (← ofElements d, rest)
  | input => refuse .route input

def routes (fuel : Nat) : Reader (List RouteConfig) := fun input =>
  match skipBlank input with
  | '[' :: rest => do
      let (found, rest) ← elements (fun done input => do
        let (r, input) ← route fuel input
        return (r :: done, input)) fuel true [] rest
      return (found.reverse, rest)
  | input => refuse .sequence input

end RouteReader

def networkText : Reader Network := fun input => do
  let (name, rest) ← text input
  match Network.ofName? name with
  | some network => return (network, rest)
  | none => .error (.unsupportedNetwork name)

def matchModeText : Reader MatchMode := fun input => do
  let (name, rest) ← text input
  match MatchMode.ofName? name with
  | some mode => return (mode, rest)
  | none => .error (.invalidMatchMode name)

def readField (fuel : Nat) (c : Config) (field : Field) : Reader Config := fun input =>
  match field with
  | .network => do
      let (value, input) ← networkText input
      return ({ c with network := value }, input)
  | .host => do
      let (value, input) ← optionalText input
      return ({ c with host := value }, input)
  | .port => do
      let (value, input) ← unsigned (Nat.pow 2 16 - 1) .unsigned16 input
      return ({ c with port := .ofNat value }, input)
  | .listenBacklog => do
      let (value, input) ← unsigned (Nat.pow 2 32 - 1) .unsigned32 input
      return ({ c with listenBacklog := .ofNat value }, input)
  | .headerSize => do
      let (value, input) ← unsigned (Nat.pow 2 64 - 1) .size input
      return ({ c with headerSize := .ofNat value }, input)
  | .matchMode => do
      let (value, input) ← matchModeText input
      return ({ c with matchMode := value }, input)
  | .peekTimeoutMs => do
      let (value, input) ← unsigned (Nat.pow 2 64 - 1) .unsigned64 input
      return ({ c with peekTimeoutMs := .ofNat value }, input)
  | .queueCapacity => do
      let (value, input) ← unsigned (Nat.pow 2 64 - 1) .size input
      return ({ c with queueCapacity := .ofNat value }, input)
  | .routes => do
      let (value, input) ← RouteReader.routes fuel input
      return ({ c with routes := value }, input)
  | .defaultTarget => do
      let (value, input) ← optionalText input
      return ({ c with defaultTarget := value }, input)
  | .logLevel => do
      let (value, input) ← text input
      return ({ c with logLevel := value }, input)
  | .bufferSize => do
      let (value, input) ← unsigned (Nat.pow 2 64 - 1) .size input
      return ({ c with bufferSize := .ofNat value }, input)
  | .connectionTimeout => do
      let (value, input) ← unsigned (Nat.pow 2 64 - 1) .unsigned64 input
      return ({ c with connectionTimeout := .ofNat value }, input)

structure Draft where
  seen : List Field := []
  config : Config := {}

def member (fuel : Nat) (d : Draft) (name : String) : Reader Draft := fun input =>
  match Field.ofName? name with
  | none => do
      let (_, input) ← unknownMember fuel input
      return (d, input)
  | some field => do
      duplicate (d.seen.contains field) name
      let (_, input) ← colon input
      let (config, input) ← readField fuel d.config field input
      return (⟨field :: d.seen, config⟩, input)

/-- Settings without names come in their order. `left` are those still to come. -/
structure Listing where
  left : List Field := Field.all
  config : Config := {}

def element (fuel : Nat) (l : Listing) : Reader Listing := fun input =>
  match l.left with
  | [] => .error .malformed
  | field :: left => do
      let (config, input) ← readField fuel l.config field input
      return (⟨left, config⟩, input)

def document (fuel : Nat) : Reader Config := fun input =>
  match skipBlank input with
  | '\x7b' :: rest => do
      let (d, rest) ← members (member fuel) fuel true {} rest
      return (d.config, rest)
  | '[' :: rest => do
      let (l, rest) ← elements (element fuel) fuel true {} rest
      return (l.config, rest)
  | input => refuse .configuration input

def ofJson (content : String) : Except Fault Config := do
  let input := content.toList
  let (config, rest) ← document (input.length + 1) input
  if skipBlank rest = [] then return config else .error .malformed

end SharedPort.Config
