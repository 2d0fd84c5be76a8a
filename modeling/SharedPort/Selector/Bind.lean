import SharedPort.Net.Listen
import SharedPort.Selector.Step

/-! From names and texts to the address and setup of a selector, up to the point where a socket is bound. -/
namespace SharedPort.Selector

/-- The header size is checked before the host is looked up. -/
def bindNetwork (lookup : Resolver) (network : Network) (host : Option String) (port : UInt16) (headerSize : Nat)
    (rule : MatchRule) (options : Options) : Except Error Setup := do
  checkHeaderSize headerSize
  let address ← resolveListenAddress lookup network host port
  return ⟨rule, headerSize, options, address⟩

def bind (lookup : Resolver) (network : String) (host : Option String) (port : UInt16) (headerSize : Nat)
    (rule : MatchRule) (options : Options) : Except Error Setup := do
  let network ← Network.parse network
  bindNetwork lookup network host port headerSize rule options

def bindAddress (lookup : Resolver) (network address : String) (headerSize : Nat) (rule : MatchRule) :
    Except Error Setup := do
  let parts ← HostPort.parse address
  bind lookup network parts.host parts.port headerSize rule {}

def bindConfig (lookup : Resolver) (c : Config) : Except Error Setup :=
  bindNetwork lookup c.network c.host c.port c.headerSize.toNat c.matchMode.rule (.ofConfig c)

def registerAll (s : State) (keys : List Bytes) (withDefault : Bool) : Except Error State := do
  let s ← keys.foldlM (fun s key =>
    match s.register key with
    | (.ok _, s) => .ok s
    | (.error e, _) => .error e) s
  if withDefault then
    match s.registerDefault with
    | (.ok _, s) => return s
    | (.error e, _) => .error e
  else return s

end SharedPort.Selector
