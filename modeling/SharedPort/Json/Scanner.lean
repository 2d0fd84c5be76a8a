import SharedPort.Config.Names
import SharedPort.Number
import SharedPort.Text.Basic

/-! The smallest parts of a document, which are blanks, words, strings and numbers, and what can be wrong with a
document. A reader takes what it recognises off the front of the text and leaves the rest. Strings are read by a machine
with one step per character. -/
namespace SharedPort.Json

inductive Number
  | whole (n : Int)
  | float (x : Binary64)
  deriving DecidableEq, Repr

inductive Found
  | null
  | boolean (value : Bool)
  | number (value : Number)
  | text (value : String)
  | sequence
  | mapping
  deriving DecidableEq, Repr

def Found.describe : Found → String
  | .null => "null"
  | .boolean value => s!"boolean `{value}`"
  | .number (.whole n) => s!"integer `{n}`"
  | .number (.float x) => s!"floating point `{x.marked}`"
  | .text value => s!"string {Quoted.text value}"
  | .sequence => "sequence"
  | .mapping => "map"

inductive Expected
  | unsigned16
  | unsigned32
  | unsigned64
  | size
  | text
  | sequence
  | route
  | configuration
  deriving DecidableEq, Repr

def Expected.describe : Expected → String
  | .unsigned16 => "u16"
  | .unsigned32 => "u32"
  | .unsigned64 => "u64"
  | .size => "usize"
  | .text => "a string"
  | .sequence => "a sequence"
  | .route => "struct RouteConfig"
  | .configuration => "struct SelectorConfig"

inductive Fault
  | malformed
  | wrongType (found : Found) (expected : Expected)
  | outOfRange (value : Int) (expected : Expected)
  | duplicateField (name : String)
  | missingField (name : String)
  | tooShort (length : Nat)
  | unsupportedNetwork (name : String)
  | invalidMatchMode (name : String)
  deriving DecidableEq, Repr

def Fault.message : Fault → String
  | .malformed => "<malformed JSON>"
  | .wrongType found expected => s!"invalid type: {found.describe}, expected {expected.describe}"
  | .outOfRange value expected => s!"invalid value: integer `{value}`, expected {expected.describe}"
  | .duplicateField name => s!"duplicate field `{name}`"
  | .missingField name => s!"missing field `{name}`"
  | .tooShort length => s!"invalid length {length}, expected struct RouteConfig with 2 elements"
  | .unsupportedNetwork name => Network.unsupportedMessage name
  | .invalidMatchMode name => "Configuration error: " ++ MatchMode.invalidText name

abbrev Reader (α : Type) := List Char → Except Fault (α × List Char)

def isBlank (c : Char) : Bool := c == ' ' || c == '\n' || c == '\t' || c == '\r'

def skipBlank (text : List Char) : List Char := text.dropWhile isBlank

def isDigit (c : Char) : Bool := '0' ≤ c && c ≤ '9'

def word (word : List Char) (value : α) : Reader α := fun text =>
  if word.isPrefixOf text then .ok (value, text.drop word.length) else .error .malformed

def hexDigit? (c : Char) : Option Nat :=
  if '0' ≤ c ∧ c ≤ '9' then some (c.toNat - '0'.toNat)
  else if 'a' ≤ c ∧ c ≤ 'f' then some (c.toNat - 'a'.toNat + 10)
  else if 'A' ≤ c ∧ c ≤ 'F' then some (c.toNat - 'A'.toNat + 10)
  else none

def shortEscape? (c : Char) : Option Char :=
  match c with
  | '"' => some '"'
  | '\\' => some '\\'
  | '/' => some '/'
  | 'b' => some '\x08'
  | 'f' => some '\x0c'
  | 'n' => some '\n'
  | 'r' => some '\r'
  | 't' => some '\t'
  | _ => none

/-- Where a string reader stands: between characters, behind a backslash, inside the four digits of a code unit, or
in front of the second half of a surrogate pair. -/
inductive StringPhase
  | plain
  | escape
  | unit (left : Nat) (value : Nat) (high : Option Nat)
  | lowMark (high : Nat)
  | lowLetter (high : Nat)
  deriving DecidableEq, Repr

inductive UnitMeaning
  | character (c : Char)
  | high (value : Nat)
  | stray
  deriving DecidableEq, Repr

def isHigh (value : Nat) : Bool := 0xD800 ≤ value && value ≤ 0xDBFF
def isLow (value : Nat) : Bool := 0xDC00 ≤ value && value ≤ 0xDFFF

def unitMeaning (value : Nat) : Option Nat → UnitMeaning
  | none =>
      if isLow value then .stray
      else if isHigh value then .high value
      else .character (Char.ofNat value)
  | some high =>
      if isLow value then .character (Char.ofNat (0x10000 + (high - 0xD800) * 0x400 + (value - 0xDC00)))
      else .stray

def stringFrom : StringPhase → List Char → Reader String
  | _, _, [] => .error .malformed
  | .plain, done, c :: rest =>
      if c = '"' then .ok (String.ofList done.reverse, rest)
      else if c = '\\' then stringFrom .escape done rest
      else if c < ' ' then .error .malformed
      else stringFrom .plain (c :: done) rest
  | .escape, done, c :: rest =>
      if c = 'u' then stringFrom (.unit 4 0 none) done rest
      else
        match shortEscape? c with
        | some d => stringFrom .plain (d :: done) rest
        | none => .error .malformed
  | .unit left value high, done, c :: rest =>
      match hexDigit? c with
      | none => .error .malformed
      | some d =>
          if 1 < left then stringFrom (.unit (left - 1) (value * 16 + d) high) done rest
          else
            match unitMeaning (value * 16 + d) high with
            | .character c => stringFrom .plain (c :: done) rest
            | .high h => stringFrom (.lowMark h) done rest
            | .stray => .error .malformed
  | .lowMark high, done, c :: rest =>
      if c = '\\' then stringFrom (.lowLetter high) done rest else .error .malformed
  | .lowLetter high, done, c :: rest =>
      if c = 'u' then stringFrom (.unit 4 0 (some high)) done rest else .error .malformed

def string : Reader String
  | '"' :: rest => stringFrom .plain [] rest
  | _ => .error .malformed

structure NumberText where
  negative : Bool
  whole : List Char
  fraction : List Char
  power : Option (Bool × List Char)
  deriving DecidableEq, Repr

def fractionText : Reader (List Char)
  | '.' :: rest =>
      let digits := rest.takeWhile isDigit
      if digits = [] then .error .malformed else .ok (digits, rest.dropWhile isDigit)
  | text => .ok ([], text)

def signText : List Char → Bool × List Char
  | '-' :: rest => (true, rest)
  | '+' :: rest => (false, rest)
  | text => (false, text)

def powerText : Reader (Option (Bool × List Char))
  | [] => .ok (none, [])
  | c :: rest =>
      if c = 'e' ∨ c = 'E' then
        let (negative, rest) := signText rest
        let digits := rest.takeWhile isDigit
        if digits = [] then .error .malformed
        else .ok (some (negative, digits), rest.dropWhile isDigit)
      else .ok (none, c :: rest)

/-- A number has no digit in front of its first one that is a zero, and does not begin with a point. -/
def numberText : Reader NumberText := fun text => do
  let (negative, text) := match text with
    | '-' :: rest => (true, rest)
    | text => (false, text)
  let whole := text.takeWhile isDigit
  if whole = [] ∨ (whole.head? = some '0' ∧ 1 < whole.length) then .error .malformed
  else
    let (fraction, text) ← fractionText (text.dropWhile isDigit)
    let (power, text) ← powerText text
    return (⟨negative, whole, fraction, power⟩, text)

end SharedPort.Json
