/-! Binary floating point numbers of 64 bits, with the exact arithmetic that readers and writers of numbers need.
Rounding is to the nearest number, ties to the even mantissa. A number is written with the fewest decimal digits that
read back as it. -/
namespace SharedPort

/-- A finite number is `mantissa * 2 ^ exponent`. Mantissas stay below `2 ^ 53`; one below `2 ^ 52` occurs with
the least exponent `-1074` only, and zero is one of those. -/
inductive Binary64
  | nan
  | infinite (negative : Bool)
  | finite (negative : Bool) (mantissa : Nat) (exponent : Int)
  deriving DecidableEq, Repr

namespace Binary64

def leastExponent : Int := -1074
def greatestExponent : Int := 971

def zero (negative : Bool) : Binary64 := .finite negative 0 leastExponent

structure Scaled where
  units : Nat
  remainder : Nat
  divisor : Nat

def scale (num den : Nat) (exponent : Int) : Scaled :=
  let num := num * Nat.pow 2 (-exponent).toNat
  let den := den * Nat.pow 2 exponent.toNat
  ⟨num / den, num % den, den⟩

def exponentFor (num den : Nat) : Int :=
  let guess : Int := (Nat.log2 num : Int) - (Nat.log2 den : Int) - 53
  let units := (scale num den guess).units
  let exact := if units < Nat.pow 2 53 then guess else guess + 1
  max exact leastExponent

def roundHalfEven (s : Scaled) : Nat :=
  if s.divisor < 2 * s.remainder ∨ (s.divisor = 2 * s.remainder ∧ s.units % 2 = 1) then s.units + 1
  else s.units

def ofRatio (negative : Bool) (num den : Nat) : Binary64 :=
  if num = 0 then zero negative
  else
    let exponent := exponentFor num den
    let units := roundHalfEven (scale num den exponent)
    let mantissa := if units = Nat.pow 2 53 then Nat.pow 2 52 else units
    let exponent := if units = Nat.pow 2 53 then exponent + 1 else exponent
    if greatestExponent < exponent then .infinite negative else .finite negative mantissa exponent

def ofNat (n : Nat) : Binary64 := ofRatio false n 1

def ofInt (n : Int) : Binary64 := ofRatio (n < 0) n.natAbs 1

/-- `digits * 10 ^ exponent`. No power is computed for what is plainly out of range on either side. -/
def ofDecimal (negative : Bool) (digits : Nat) (exponent : Int) : Binary64 :=
  let magnitude : Int := exponent + (Nat.toDigits 10 digits).length
  if digits = 0 ∨ magnitude < -330 then zero negative
  else if 310 < magnitude then .infinite negative
  else ofRatio negative (digits * Nat.pow 10 exponent.toNat) (Nat.pow 10 (-exponent).toNat)

def neg : Binary64 → Binary64
  | .nan => .nan
  | .infinite negative => .infinite !negative
  | .finite negative m e => .finite (!negative) m e

def ratio (m : Nat) (e : Int) : Nat × Nat := (m * Nat.pow 2 e.toNat, Nat.pow 2 (-e).toNat)

def mul : Binary64 → Binary64 → Binary64
  | .finite s m e, .finite t n f => ofRatio (s != t) (ratio (m * n) (e + f)).1 (ratio (m * n) (e + f)).2
  | _, _ => .nan

def div : Binary64 → Binary64 → Binary64
  | .finite s m e, .finite t n f =>
      if n = 0 then .nan
      else ofRatio (s != t) (m * (ratio 1 (e - f)).1) (n * (ratio 1 (e - f)).2)
  | _, _ => .nan

def isZero : Binary64 → Bool
  | .finite _ m _ => m == 0
  | _ => false

def isInfinite : Binary64 → Bool
  | .infinite _ => true
  | _ => false

def saturate (bound : Nat) : Binary64 → Nat
  | .nan => 0
  | .infinite negative => if negative then 0 else bound
  | .finite negative m e =>
      if negative then 0
      else
        let (num, den) := ratio m e
        min bound ((2 * num + den) / (2 * den))

end Binary64
end SharedPort

namespace SharedPort.Binary64

def isDigit (c : Char) : Bool := '0' ≤ c && c ≤ '9'

def digitsValue (digits : List Char) : Nat :=
  digits.foldl (fun n c => n * 10 + (c.toNat - '0'.toNat)) 0

def powerText? : List Char → Option Int
  | [] => some 0
  | c :: rest =>
      let (negative, digits) := match rest with
        | '-' :: digits => (true, digits)
        | '+' :: digits => (false, digits)
        | digits => (false, digits)
      if (c = 'e' ∨ c = 'E') ∧ digits ≠ [] ∧ digits.all isDigit then
        some (if negative then -(digitsValue digits : Int) else digitsValue digits)
      else none

def unsignedText? (negative : Bool) (text : List Char) : Option Binary64 :=
  let word := text.map Char.toLower
  if word = "inf".toList ∨ word = "infinity".toList then some (.infinite negative)
  else if word = "nan".toList then some .nan
  else
    let whole := text.takeWhile isDigit
    let rest := text.dropWhile isDigit
    let (fraction, rest) := match rest with
      | '.' :: rest => (rest.takeWhile isDigit, rest.dropWhile isDigit)
      | rest => ([], rest)
    if whole = [] ∧ fraction = [] then none
    else (powerText? rest).map fun power =>
      ofDecimal negative (digitsValue (whole ++ fraction)) (power - fraction.length)

def ofText? (text : String) : Option Binary64 :=
  match text.toList with
  | '-' :: rest => unsignedText? true rest
  | '+' :: rest => unsignedText? false rest
  | rest => unsignedText? false rest

structure DecimalForm where
  digits : Nat
  exponent : Int
  deriving DecidableEq, Repr

def magnitudeFrom : Nat → Int → Nat → Nat → Int
  | 0, k, _, _ => k
  | fuel + 1, k, num, den =>
      if num * Nat.pow 10 (-k).toNat < den * Nat.pow 10 k.toNat then k else magnitudeFrom fuel (k + 1) num den

def onGrid (m : Nat) (e : Int) (magnitude : Int) (places : Nat) : Option DecimalForm :=
  let x : Binary64 := .finite false m e
  let grid : Int := magnitude - places
  let (num, den) := ratio m e
  let num := num * Nat.pow 10 (-grid).toNat
  let den := den * Nat.pow 10 grid.toNat
  let below := num / den
  let rest := num % den
  let nearer := if 2 * rest < den ∨ (2 * rest = den ∧ below % 2 = 0) then below else below + 1
  let farther := if nearer = below then below + 1 else below
  if ofDecimal false nearer grid = x then some ⟨nearer, grid⟩
  else if ofDecimal false farther grid = x then some ⟨farther, grid⟩
  else none

def dropZeros : Nat → DecimalForm → DecimalForm
  | 0, d => d
  | fuel + 1, d =>
      if d.digits ≠ 0 ∧ d.digits % 10 = 0 then dropZeros fuel ⟨d.digits / 10, d.exponent + 1⟩ else d

def shortest (m : Nat) (e : Int) : DecimalForm :=
  let (num, den) := ratio m e
  let estimate : Int := ((Nat.log2 num : Int) - (Nat.log2 den : Int)) * 30103 / 100000 - 1
  let magnitude := magnitudeFrom 5 estimate num den
  match (List.range 17).findSome? fun n => onGrid m e magnitude (n + 1) with
  | some d => dropZeros 17 d
  | none => ⟨m, e⟩

def digitsOf (n : Nat) : List Char := Nat.toDigits 10 n

def positional (d : DecimalForm) : List Char :=
  let digits := digitsOf d.digits
  if 0 ≤ d.exponent then digits ++ List.replicate d.exponent.toNat '0'
  else
    let places := (-d.exponent).toNat
    if places < digits.length then
      digits.take (digits.length - places) ++ '.' :: digits.drop (digits.length - places)
    else ['0', '.'] ++ List.replicate (places - digits.length) '0' ++ digits

def sign (negative : Bool) : List Char := if negative then ['-'] else []

def plain : Binary64 → String
  | .nan => "NaN"
  | .infinite negative => String.ofList (sign negative ++ ['i', 'n', 'f'])
  | .finite negative m e =>
      String.ofList (sign negative ++ if m = 0 then ['0'] else positional (shortest m e))

def scientific (d : DecimalForm) : List Char :=
  let digits := digitsOf d.digits
  let power : Int := d.exponent + digits.length - 1
  let head := digits.take 1 ++ (if digits.length = 1 then [] else '.' :: digits.drop 1)
  head ++ 'e' :: (if power < 0 then '-' else '+') :: digitsOf power.natAbs

def marked : Binary64 → String
  | .nan => "NaN"
  | .infinite negative => String.ofList (sign negative ++ ['i', 'n', 'f'])
  | .finite negative m e =>
      if m = 0 then String.ofList (sign negative ++ ['0', '.', '0'])
      else
        let d := shortest m e
        let power : Int := d.exponent + (digitsOf d.digits).length - 1
        let body :=
          if -5 ≤ power ∧ power ≤ 15 then
            positional d ++ (if 0 ≤ d.exponent then ['.', '0'] else [])
          else scientific d
        String.ofList (sign negative ++ body)

def pointed (x : Binary64) : String :=
  match x with
  | .finite .. => let text := x.plain; if text.toList.contains '.' then text else text ++ ".0"
  | _ => x.plain

end SharedPort.Binary64
