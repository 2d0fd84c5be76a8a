import SharedPort.Json.Scanner
import SharedPort.Number
import SharedPort.Text.Basic

/-! Whole documents as values, and compact JSON. Digits of a number are gathered in 64 bits; those that do not fit count
as zeros before the point and are dropped behind it. Brackets nest at most 127 deep, and of two members with one key the
later one counts. -/
namespace SharedPort.Json

def significandBound : Nat := Nat.pow 2 64 - 1

structure Gathered where
  value : Nat
  left : List Char
  deriving Repr

def gather : Nat → List Char → Gathered
  | value, [] => ⟨value, []⟩
  | value, c :: rest =>
      let next := value * 10 + (c.toNat - '0'.toNat)
      if next ≤ significandBound then gather next rest else ⟨value, c :: rest⟩

def powerOfTen (n : Nat) : Binary64 := .ofDecimal false 1 n

def greatestPower : Nat := 308

/-- `x * 10 ^ exponent`; none if that is too large. A power below the least one is taken in steps, and two
steps bring any significand to zero. -/
def shift : Nat → Binary64 → Int → Option Binary64
  | 0, x, _ => some x
  | steps + 1, x, exponent =>
      if exponent.natAbs ≤ greatestPower then
        if 0 ≤ exponent then
          let y := x.mul (powerOfTen exponent.natAbs)
          if y.isInfinite then none else some y
        else some (x.div (powerOfTen exponent.natAbs))
      else if x.isZero then some x
      else if 0 ≤ exponent then none
      else shift steps (x.div (powerOfTen greatestPower)) (exponent + greatestPower)

def powerBound : Nat := Nat.pow 2 31 - 1

namespace NumberText

def signed (t : NumberText) (x : Binary64) : Binary64 := if t.negative then x.neg else x

def float? (t : NumberText) (significand : Nat) (exponent : Int) : Option Binary64 :=
  let scaled := shift 4 (.ofNat significand)
  match t.power with
  | none => (scaled exponent).map t.signed
  | some (negative, digits) =>
      let power := Binary64.digitsValue digits
      if powerBound < power then
        if significand = 0 ∨ negative then some (t.signed (.zero false)) else none
      else (scaled (if negative then exponent - power else exponent + power)).map t.signed

def value? (t : NumberText) : Option Number :=
  let whole := gather 0 t.whole
  if t.fraction = [] ∧ t.power = none ∧ whole.left = [] then
    if t.negative then
      if whole.value = 0 ∨ Nat.pow 2 63 < whole.value then some (.float (Binary64.ofNat whole.value).neg)
      else some (.whole (-(whole.value : Int)))
    else some (.whole whole.value)
  else
    let gathered := gather whole.value t.fraction
    let exponent : Int := whole.left.length - (t.fraction.length - gathered.left.length : Nat)
    (t.float? gathered.value exponent).map .float

end NumberText

def number : Reader Number := fun text => do
  let (written, rest) ← numberText text
  match written.value? with
  | some value => return (value, rest)
  | none => .error .malformed

def comma : Reader Unit := fun text =>
  match skipBlank text with
  | ',' :: rest => .ok ((), rest)
  | _ => .error .malformed

def colon : Reader Unit := fun text =>
  match skipBlank text with
  | ':' :: rest => .ok ((), rest)
  | _ => .error .malformed

def elements (item : σ → Reader σ) : Nat → Bool → σ → Reader σ
  | 0, _, _, _ => .error .malformed
  | fuel + 1, isFirst, state, text =>
      match skipBlank text with
      | ']' :: rest => .ok (state, rest)
      | text => do
          let (_, text) ← if isFirst then .ok ((), text) else comma text
          match skipBlank text with
          | ']' :: _ => .error .malformed
          | text =>
              let (state, text) ← item state text
              elements item fuel false state text

/-- The members of an object from behind its opening brace on. `member` is given the key and reads on from behind it,
the colon included. -/
def members (member : σ → String → Reader σ) : Nat → Bool → σ → Reader σ
  | 0, _, _, _ => .error .malformed
  | fuel + 1, isFirst, state, text =>
      match skipBlank text with
      | '\x7d' :: rest => .ok (state, rest)
      | text => do
          let (_, text) ← if isFirst then .ok ((), text) else comma text
          let (key, text) ← string (skipBlank text)
          let (state, text) ← member state key text
          members member fuel false state text

inductive Value
  | null
  | boolean (value : Bool)
  | number (value : Number)
  | text (value : String)
  | array (items : List Value)
  | object (members : List (String × Value))
  deriving Repr

def put (key : String) (value : α) : List (String × α) → List (String × α)
  | [] => [(key, value)]
  | (k, v) :: rest => if k = key then (key, value) :: rest else (k, v) :: put key value rest

def scalar (text : List Char) : Except Fault (Value × List Char) :=
  match text with
  | [] => .error .malformed
  | c :: rest =>
      if c = '"' then (stringFrom .plain [] rest).map fun (s, rest) => (.text s, rest)
      else if c = 'n' then word "null".toList Value.null text
      else if c = 't' then word "true".toList (Value.boolean true) text
      else if c = 'f' then word "false".toList (Value.boolean false) text
      else if c = '-' ∨ isDigit c then (number text).map fun (n, rest) => (.number n, rest)
      else .error .malformed

def value (fuel : Nat) : Nat → Reader Value
  | 0 => fun text => scalar (skipBlank text)
  | depth + 1 => fun text =>
      match skipBlank text with
      | '[' :: rest => do
          let (items, rest) ← elements (fun done text => do
            let (item, text) ← value fuel depth text
            return (item :: done, text)) fuel true [] rest
          return (.array items.reverse, rest)
      | '\x7b' :: rest => do
          let (found, rest) ← members (fun found key text => do
            let (_, text) ← colon text
            let (item, text) ← value fuel depth text
            return (put key item found, text)) fuel true [] rest
          return (.object found, rest)
      | text => scalar text

def depthLimit : Nat := 127

def Value.ofText? (content : String) : Option Value :=
  let text := content.toList
  match value (text.length + 1) depthLimit text with
  | .ok (v, rest) => if skipBlank rest = [] then some v else none
  | .error _ => none

end SharedPort.Json

namespace SharedPort.Json.Printer

def hexDigit (n : Nat) : Char := Nat.digitChar n

def escape (c : Char) : List Char :=
  if c = '"' then ['\\', '"']
  else if c = '\\' then ['\\', '\\']
  else if c = '\x08' then ['\\', 'b']
  else if c = '\x0c' then ['\\', 'f']
  else if c = '\n' then ['\\', 'n']
  else if c = '\r' then ['\\', 'r']
  else if c = '\t' then ['\\', 't']
  else if c < ' ' then ['\\', 'u', '0', '0', hexDigit (c.toNat / 16), hexDigit (c.toNat % 16)]
  else [c]

def string (s : String) : List Char := '"' :: s.toList.flatMap escape ++ ['"']

def number (n : Nat) : List Char := Decimal.render n

def separated : List (List Char) → List Char
  | [] => []
  | [item] => item
  | item :: rest => item ++ ',' :: separated rest

def array (items : List (List Char)) : List Char := '[' :: separated items ++ [']']

structure Member where
  key : String
  value : List Char

def Member.render (m : Member) : List Char := string m.key ++ ':' :: m.value

def object (members : List Member) : List Char := '\x7b' :: separated (members.map Member.render) ++ ['\x7d']

end SharedPort.Json.Printer
