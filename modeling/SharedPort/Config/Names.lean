import SharedPort.Net.Address
import SharedPort.Text.Unicode

/-! The two choices that a configuration makes by name: how a prefix is compared with a key, and the network to listen
on. -/
namespace SharedPort

inductive MatchMode
  | equal
  | leading
  | caseInsensitive
  deriving DecidableEq, Repr

namespace MatchMode

def name : MatchMode → String
  | .equal => "equal"
  | .leading => "prefix"
  | .caseInsensitive => "case_insensitive"

/-- A hyphen may stand for an underscore. -/
def underscored (c : Char) : Char := if c = '-' then '_' else c

def normalise (text : String) : String := (Lowercase.lower text).map underscored

def ofName? (text : String) : Option MatchMode :=
  let given := normalise text
  if given = "equal" ∨ given = "exact" then some .equal
  else if given = "prefix" then some .leading
  else if given = "case_insensitive" ∨ given = "nocase" then some .caseInsensitive
  else none

def invalidText (text : String) : String :=
  s!"Invalid match mode: {text}. Valid values are: equal, prefix, case_insensitive"

end MatchMode

inductive Network
  | tcp
  | tcp4
  | tcp6
  deriving DecidableEq, Repr

namespace Network

def accepts : Network → IpAddress → Bool
  | .tcp, _ => true
  | .tcp4, ip => ip.isV4
  | .tcp6, ip => ip.isV6

def unspecified : Network → IpAddress
  | .tcp | .tcp4 => .unspecified4
  | .tcp6 => .unspecified6

def name : Network → String
  | .tcp => "tcp"
  | .tcp4 => "tcp4"
  | .tcp6 => "tcp6"

def ofName? (text : String) : Option Network :=
  let lowered := Lowercase.lower text
  if lowered = "tcp" then some .tcp
  else if lowered = "tcp4" then some .tcp4
  else if lowered = "tcp6" then some .tcp6
  else none

def unsupportedMessage (text : String) : String :=
  s!"Unsupported network: {text} (expected tcp, tcp4 or tcp6)"

end Network
end SharedPort
