import SharedPort.Error
import SharedPort.Text.Basic

/-! Comparing prefixes with keys, and the registered keys in the order of their registration. A rule is a name, a check
of keys and a comparison; the built-in modes are rules. Each key has its listener, known by its number, and one more
listener takes what matches none of them. -/
namespace SharedPort

/-- Whether a key is fit for prefixes of a size, and whether a prefix matches it. `label` stands for the rule in debug
texts. -/
structure MatchRule where
  name : String
  label : String
  validateKey : Bytes → Nat → Except Error Unit
  isMatch : Bytes → Bytes → Nat → Bool

namespace MatchMode

def requireExact (key : Bytes) (headerSize : Nat) : Except Error Unit :=
  if key.length = headerSize then .ok ()
  else .error (.invalidKeyLength (Utf8.decodeLossy key) key.length (.notExact headerSize))

def validateKey (mode : MatchMode) (key : Bytes) (headerSize : Nat) : Except Error Unit :=
  match mode with
  | .equal | .caseInsensitive => requireExact key headerSize
  | .leading => .ok ()

/-- A prefix that is not of the header's size matches nothing, and neither does an empty key as a leading part. -/
def isMatch (mode : MatchMode) (peeked key : Bytes) (headerSize : Nat) : Bool :=
  if peeked.length ≠ headerSize then false
  else
    match mode with
    | .equal => peeked == key
    | .leading => !key.isEmpty && key.isPrefixOf peeked
    | .caseInsensitive => Bytes.sameIgnoringCase peeked key

def label : MatchMode → String
  | .equal => "Equal"
  | .leading => "Prefix"
  | .caseInsensitive => "CaseInsensitive"

def rule (mode : MatchMode) : MatchRule := ⟨mode.name, mode.label, mode.validateKey, mode.isMatch⟩

def parse (text : String) : Except Error MatchMode :=
  match ofName? text with
  | some mode => .ok mode
  | none => .error (.config (.invalidMatchMode text))

end MatchMode

def Network.parse (text : String) : Except Error Network :=
  match Network.ofName? text with
  | some network => .ok network
  | none => .error (.unsupportedNetwork text)

structure Registry where
  routes : List (Bytes × Nat) := []
  unmatched : Option Nat := none
  deriving DecidableEq, Repr

namespace Registry

def keys (r : Registry) : List Bytes := r.routes.map Prod.fst

def contains (r : Registry) (key : Bytes) : Bool := r.routes.any (·.1 == key)

def insert (r : Registry) (key : Bytes) (listener : Nat) : Except Error Registry :=
  if r.contains key then .error (.duplicateKey (Utf8.decodeLossy key))
  else .ok { r with routes := r.routes ++ [(key, listener)] }

def setDefault (r : Registry) (listener : Nat) : Except Error Registry :=
  if r.unmatched.isSome then .error .duplicateDefault else .ok { r with unmatched := some listener }

def remove (r : Registry) (key : Bytes) : Except Error (Nat × Registry) :=
  match r.routes.find? (·.1 == key) with
  | none => .error (.unknownKey (Utf8.decodeLossy key))
  | some (_, listener) => .ok (listener, { r with routes := r.routes.eraseP (·.1 == key) })

def takeDefault (r : Registry) : Option Nat × Registry := (r.unmatched, { r with unmatched := none })

def route (r : Registry) (rule : MatchRule) (headerSize : Nat) (peeked : Bytes) : Option Nat :=
  ((r.routes.find? fun entry => rule.isMatch peeked entry.1 headerSize).map Prod.snd).or r.unmatched

def listeners (r : Registry) : List Nat := r.routes.map Prod.snd ++ r.unmatched.toList

theorem containsKey {r : Registry} {key : Bytes} : r.contains key = true ↔ key ∈ r.keys := by
  simp [contains, keys, List.any_eq_true, List.mem_map]

theorem insertPresent {r : Registry} {key : Bytes} (listener : Nat) (h : key ∈ r.keys) :
    r.insert key listener = .error (.duplicateKey (Utf8.decodeLossy key)) := by
  simp [insert, containsKey.2 h]

end Registry
end SharedPort
