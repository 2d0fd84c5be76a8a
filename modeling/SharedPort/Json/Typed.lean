import SharedPort.Json.Value

/-! Values of a wanted type, and values that nobody asked for. A value of another type is described by its first
character; scalars are read to their end before they are refused. What is passed over is looked at for its grammar only
and nests without limit, since the open brackets are kept in a list. -/
namespace SharedPort.Json

def found (text : List Char) : Except Fault Found :=
  match text with
  | [] => .error .malformed
  | c :: _ =>
      if c = '"' then do
        let (value, _) ← string text
        return .text value
      else if c = '[' then .ok .sequence
      else if c = '\x7b' then .ok .mapping
      else if c = 'n' then (word "null".toList Found.null text).map Prod.fst
      else if c = 't' then (word "true".toList (Found.boolean true) text).map Prod.fst
      else if c = 'f' then (word "false".toList (Found.boolean false) text).map Prod.fst
      else if c = '-' ∨ isDigit c then (number text).map fun (value, _) => .number value
      else .error .malformed

def refuse (expected : Expected) (text : List Char) : Except Fault α := do
  let found ← found text
  .error (.wrongType found expected)

def unsigned (bound : Nat) (expected : Expected) : Reader Nat := fun text =>
  match skipBlank text with
  | [] => .error .malformed
  | c :: rest =>
      if c = '-' ∨ isDigit c then do
        let (value, rest) ← number (c :: rest)
        match value with
        | .whole n =>
            if 0 ≤ n ∧ n ≤ bound then return (n.toNat, rest) else .error (.outOfRange n expected)
        | .float x => .error (.wrongType (.number (.float x)) expected)
      else refuse expected (c :: rest)

def text : Reader String := fun input =>
  match skipBlank input with
  | '"' :: rest => string ('"' :: rest)
  | input => refuse .text input

def optionalText : Reader (Option String) := fun input =>
  match skipBlank input with
  | 'n' :: rest => word "null".toList none ('n' :: rest)
  | input => do
      let (value, rest) ← text input
      return (some value, rest)

end SharedPort.Json

namespace SharedPort.Json.Skip

inductive Bracket
  | array
  | object
  deriving DecidableEq, Repr

/-- Passes over a string from behind its opening quote on. `hex` digits of a code unit are still due;
`escaped` says that a backslash comes before. -/
def string : Nat → Bool → List Char → Except Fault (List Char)
  | _, _, [] => .error .malformed
  | hex + 1, _, c :: rest =>
      if (hexDigit? c).isSome then string hex false rest else .error .malformed
  | 0, true, c :: rest =>
      if c = 'u' then string 4 false rest
      else if (shortEscape? c).isSome then string 0 false rest
      else .error .malformed
  | 0, false, c :: rest =>
      if c = '"' then .ok rest
      else if c = '\\' then string 0 true rest
      else if c < ' ' then .error .malformed
      else string 0 false rest

inductive Stage
  | value
  | opened
  | after
  deriving DecidableEq, Repr

def key (text : List Char) : Except Fault (List Char) :=
  match skipBlank text with
  | '"' :: rest => do
      let rest ← string 0 false rest
      let (_, rest) ← colon rest
      return rest
  | _ => .error .malformed

def enter (bracket : Bracket) (text : List Char) : Except Fault (List Char) :=
  match bracket with
  | .array => .ok text
  | .object => key text

def closes : Bracket → Char → Bool
  | .array, c => c == ']'
  | .object, c => c == '\x7d'

def scalar (text : List Char) : Except Fault (List Char) :=
  match text with
  | [] => .error .malformed
  | c :: rest =>
      if c = '"' then string 0 false rest
      else if c = 'n' then (word "null".toList () text).map Prod.snd
      else if c = 't' then (word "true".toList () text).map Prod.snd
      else if c = 'f' then (word "false".toList () text).map Prod.snd
      else if c = '-' ∨ isDigit c then (numberText text).map Prod.snd
      else .error .malformed

def run : Nat → Stage → List Bracket → List Char → Except Fault (List Char)
  | 0, _, _, _ => .error .malformed
  | fuel + 1, .value, stack, text =>
      match skipBlank text with
      | '[' :: rest => run fuel .opened (.array :: stack) rest
      | '\x7b' :: rest => run fuel .opened (.object :: stack) rest
      | text => do
          let rest ← scalar text
          run fuel .after stack rest
  | _ + 1, .opened, [], _ => .error .malformed
  | fuel + 1, .opened, bracket :: stack, text =>
      match skipBlank text with
      | [] => .error .malformed
      | c :: rest =>
          if closes bracket c then run fuel .after stack rest
          else do
            let rest ← enter bracket (c :: rest)
            run fuel .value (bracket :: stack) rest
  | _ + 1, .after, [], text => .ok text
  | fuel + 1, .after, bracket :: stack, text =>
      match skipBlank text with
      | [] => .error .malformed
      | c :: rest =>
          if closes bracket c then run fuel .after stack rest
          else if c = ',' then do
            let rest ← enter bracket rest
            run fuel .value (bracket :: stack) rest
          else .error .malformed

def value (fuel : Nat) (text : List Char) : Except Fault (List Char) :=
  run (3 * fuel + 3) .value [] text

end SharedPort.Json.Skip
