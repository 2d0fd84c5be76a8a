import SharedPort.Text.Unicode

/-! Byte strings and texts: UTF-8 in both directions, decimal integers with an upper bound, quoted forms for messages,
and lengths of time in their short form. A byte string is a list, so that prefixes, suffixes and concatenations are
those of `List`. -/
namespace SharedPort

abbrev Bytes := List UInt8

namespace Bytes

def lowerByte (b : UInt8) : UInt8 :=
  if 65 ≤ b ∧ b ≤ 90 then b + 32 else b

def lower (bytes : Bytes) : Bytes := bytes.map lowerByte

def sameIgnoringCase (a b : Bytes) : Bool := lower a == lower b

end Bytes
end SharedPort

namespace SharedPort.Decimal

inductive Fault
  | empty
  | invalidDigit
  | tooLarge
  | tooSmall
  deriving DecidableEq, Repr

def Fault.message : Fault → String
  | .empty => "cannot parse integer from empty string"
  | .invalidDigit => "invalid digit found in string"
  | .tooLarge => "number too large to fit in target type"
  | .tooSmall => "number too small to fit in target type"

def digit? (c : Char) : Option Nat :=
  if '0' ≤ c ∧ c ≤ '9' then some (c.toNat - '0'.toNat) else none

/-- The value of `digits` appended to `value`, as long as no step leaves the bound; `beyond` is the
fault of such a step. -/
def accumulate (bound : Nat) (beyond : Fault) : Nat → List Char → Except Fault Nat
  | value, [] => .ok value
  | value, c :: rest =>
      match digit? c with
      | none => .error .invalidDigit
      | some d =>
          if value * 10 + d ≤ bound then accumulate bound beyond (value * 10 + d) rest
          else .error beyond

def digits (bound : Nat) (beyond : Fault) : List Char → Except Fault Nat
  | [] => .error .invalidDigit
  | text => accumulate bound beyond 0 text

def unsigned (bound : Nat) : List Char → Except Fault Nat
  | [] => .error .empty
  | '+' :: rest => digits bound .tooLarge rest
  | text => digits bound .tooLarge text

def signed (bound : Nat) : List Char → Except Fault Int
  | [] => .error .empty
  | '-' :: rest => (digits (bound + 1) .tooSmall rest).map fun n => -(n : Int)
  | '+' :: rest => (digits bound .tooLarge rest).map Int.ofNat
  | text => (digits bound .tooLarge text).map Int.ofNat

def bound16 : Nat := Nat.pow 2 16 - 1
def bound63 : Nat := Nat.pow 2 63 - 1
def bound64 : Nat := Nat.pow 2 64 - 1

def render (n : Nat) : List Char := Nat.toDigits 10 n

end SharedPort.Decimal

namespace SharedPort.Utf8

def encodeChars (text : List Char) : Bytes := text.flatMap String.utf8EncodeChar

def encode (text : String) : Bytes := encodeChars text.toList

structure Lead where
  owed : Nat
  low : UInt8
  high : UInt8
  bits : Nat
  deriving DecidableEq, Repr

/-- The narrowed ranges keep out overlong forms, surrogates and values above U+10FFFF. -/
def lead? (b : UInt8) : Option Lead :=
  let n := b.toNat
  if 0xC2 ≤ n ∧ n ≤ 0xDF then some ⟨1, 0x80, 0xBF, n - 0xC0⟩
  else if n = 0xE0 then some ⟨2, 0xA0, 0xBF, 0⟩
  else if n = 0xED then some ⟨2, 0x80, 0x9F, 13⟩
  else if 0xE1 ≤ n ∧ n ≤ 0xEF then some ⟨2, 0x80, 0xBF, n - 0xE0⟩
  else if n = 0xF0 then some ⟨3, 0x90, 0xBF, 0⟩
  else if 0xF1 ≤ n ∧ n ≤ 0xF3 then some ⟨3, 0x80, 0xBF, n - 0xF0⟩
  else if n = 0xF4 then some ⟨3, 0x80, 0x8F, 4⟩
  else none

structure Decoder where
  pieces : List (Option Char)
  open? : Option Lead
  deriving Repr

namespace Decoder

def start (pieces : List (Option Char)) (b : UInt8) : Decoder :=
  if b < 0x80 then ⟨some (Char.ofNat b.toNat) :: pieces, none⟩
  else
    match lead? b with
    | none => ⟨none :: pieces, none⟩
    | some lead => ⟨pieces, some lead⟩

def feed (d : Decoder) (b : UInt8) : Decoder :=
  match d.open? with
  | none => start d.pieces b
  | some lead =>
      if lead.low ≤ b ∧ b ≤ lead.high then
        let bits := lead.bits * 64 + (b.toNat - 0x80)
        if lead.owed ≤ 1 then ⟨some (Char.ofNat bits) :: d.pieces, none⟩
        else ⟨d.pieces, some ⟨lead.owed - 1, 0x80, 0xBF, bits⟩⟩
      else start (none :: d.pieces) b

def finish (d : Decoder) : List (Option Char) :=
  match d.open? with
  | none => d.pieces.reverse
  | some _ => (none :: d.pieces).reverse

end Decoder

def scan (bytes : Bytes) : List (Option Char) :=
  (bytes.foldl Decoder.feed ⟨[], none⟩).finish

def decode? (bytes : Bytes) : Option String :=
  ((scan bytes).mapM id).map String.ofList

def decodeLossy (bytes : Bytes) : String :=
  String.ofList ((scan bytes).map (·.getD '\uFFFD'))

end SharedPort.Utf8

namespace SharedPort.Quoted

def hex (n : Nat) : List Char := Nat.toDigits 16 n

def escapeChar (c : Char) : List Char :=
  if c = '\x00' then ['\\', '0']
  else if c = '\t' then ['\\', 't']
  else if c = '\r' then ['\\', 'r']
  else if c = '\n' then ['\\', 'n']
  else if c = '\\' then ['\\', '\\']
  else if c = '"' then ['\\', '"']
  else if Unprintable.contains c then ['\\', 'u', '\x7b'] ++ hex c.toNat ++ ['\x7d']
  else [c]

def text (s : String) : String :=
  String.ofList ('"' :: s.toList.flatMap escapeChar ++ ['"'])

def escapeByte (b : UInt8) : List Char :=
  if b = 0 then ['\\', '0']
  else if b = 9 then ['\\', 't']
  else if b = 10 then ['\\', 'n']
  else if b = 13 then ['\\', 'r']
  else if b = 34 then ['\\', '"']
  else if b = 92 then ['\\', '\\']
  else if 0x20 ≤ b ∧ b ≤ 0x7E then [Char.ofNat b.toNat]
  else ['\\', 'x'] ++ hex (b.toNat / 16) ++ hex (b.toNat % 16)

def bytes (s : Bytes) : String :=
  String.ofList ('b' :: '"' :: s.flatMap escapeByte ++ ['"'])

end SharedPort.Quoted

namespace SharedPort

structure Span where
  nanos : Nat
  deriving DecidableEq, Repr

namespace Span

def ofMillis (n : Nat) : Span := ⟨n * 1000000⟩

def ofSeconds (n : Nat) : Span := ⟨n * 1000000000⟩

def millis (s : Span) : Nat := s.nanos / 1000000

def fractionDigits (width n : Nat) : List Char :=
  let digits := Decimal.render n
  let padded := List.replicate (width - digits.length) '0' ++ digits
  (padded.reverse.dropWhile (· = '0')).reverse

def fraction (width n : Nat) : String :=
  match fractionDigits width n with
  | [] => ""
  | digits => "." ++ String.ofList digits

def render (s : Span) : String :=
  let n := s.nanos
  if 1000000000 ≤ n then s!"{n / 1000000000}{fraction 9 (n % 1000000000)}s"
  else if 1000000 ≤ n then s!"{n / 1000000}{fraction 6 (n % 1000000)}ms"
  else if 1000 ≤ n then s!"{n / 1000}{fraction 3 (n % 1000)}µs"
  else s!"{n}ns"

end Span
end SharedPort
