import SharedPort.Config.Basic
import SharedPort.Config.Validation
import SharedPort.Registry

/-! What is fixed when a selector is made, its limits among it, and which keys can be registered with it. -/
namespace SharedPort.Selector

structure Options where
  peekTimeout : Option Span := some (.ofMillis 10000)
  queueCapacity : Option Nat := some 1024
  listenBacklog : UInt32 := 1024
  deriving DecidableEq, Repr

def Options.ofConfig (c : Config) : Options := ⟨c.peekTimeout, c.queueLimit, c.listenBacklog⟩

structure Setup where
  rule : MatchRule
  headerSize : Nat
  options : Options
  address : SocketAddress

def checkHeaderSize (n : Nat) : Except Error Unit :=
  if Config.validHeaderSize n then .ok () else .error (.invalidHeaderSize n)

namespace Setup

/-- A key has to be matched by some prefix of the header's size. -/
def validateKey (s : Setup) (key : Bytes) : Except Error Unit :=
  if key.isEmpty then .error (.invalidKeyLength (Utf8.decodeLossy key) key.length .empty)
  else if s.headerSize < key.length then
    .error (.invalidKeyLength (Utf8.decodeLossy key) key.length (.longerThanHeader s.headerSize))
  else s.rule.validateKey key s.headerSize

def debug (s : Setup) (address : String) (closed : Bool) : String :=
  s!"Selector \x7b local_addr: {address}, header_size: {s.headerSize}, rule: {s.rule.label}, closed: {closed} \x7d"

end Setup
end SharedPort.Selector
