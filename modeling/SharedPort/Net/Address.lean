/-! Internet addresses of both families, their canonical text, and reading them. An IPv6 address is written with the
first longest run of two or more zero groups left out; where it is read, `::` stands once for one or more zero groups,
and the last two groups may be written as an IPv4 address. -/
namespace SharedPort

inductive IpAddress
  | v4 (a b c d : UInt8)
  | v6 (groups : Vector UInt16 8)
  deriving DecidableEq, Repr

namespace IpAddress

def isV4 : IpAddress → Bool
  | .v4 .. => true
  | .v6 _ => false

def isV6 (ip : IpAddress) : Bool := !ip.isV4

def unspecified4 : IpAddress := .v4 0 0 0 0
def unspecified6 : IpAddress := .v6 (Vector.replicate 8 0)
def loopback4 : IpAddress := .v4 127 0 0 1

structure ZeroRun where
  start : Nat
  length : Nat
  deriving DecidableEq, Repr

/-- The first longest run of zeros. `current` is the run that ends right before the groups still to
be looked at, and `index` is their position. -/
def longestZeroRun (index : Nat) (current best : ZeroRun) : List UInt16 → ZeroRun
  | [] => best
  | g :: rest =>
      if g = 0 then
        let current : ZeroRun := ⟨if current.length = 0 then index else current.start, current.length + 1⟩
        longestZeroRun (index + 1) current (if best.length < current.length then current else best) rest
      else longestZeroRun (index + 1) ⟨0, 0⟩ best rest

def renderGroups (groups : List UInt16) : String :=
  String.intercalate ":" (groups.map fun g => String.ofList (Nat.toDigits 16 g.toNat))

def renderV4 (a b c d : UInt8) : String := s!"{a.toNat}.{b.toNat}.{c.toNat}.{d.toNat}"

def renderV6 (groups : List UInt16) : String :=
  match groups with
  | [0, 0, 0, 0, 0, 0xFFFF, high, low] =>
      "::ffff:" ++ renderV4 (high >>> 8).toUInt8 high.toUInt8 (low >>> 8).toUInt8 low.toUInt8
  | _ =>
      let run := longestZeroRun 0 ⟨0, 0⟩ ⟨0, 0⟩ groups
      if 1 < run.length then
        renderGroups (groups.take run.start) ++ "::" ++ renderGroups (groups.drop (run.start + run.length))
      else renderGroups groups

def render : IpAddress → String
  | .v4 a b c d => renderV4 a b c d
  | .v6 groups => renderV6 groups.toList

end IpAddress

structure SocketAddress where
  ip : IpAddress
  port : UInt16
  deriving DecidableEq, Repr

namespace SocketAddress

def render (a : SocketAddress) : String :=
  match a.ip with
  | .v4 .. => s!"{a.ip.render}:{a.port.toNat}"
  | .v6 _ => s!"[{a.ip.render}]:{a.port.toNat}"

end SocketAddress
end SharedPort

namespace SharedPort.IpAddress

abbrev Reader (α : Type) := List Char → Option (α × List Char)

def digitIn (base : Nat) (c : Char) : Option Nat :=
  let value :=
    if '0' ≤ c ∧ c ≤ '9' then some (c.toNat - '0'.toNat)
    else if 'a' ≤ c ∧ c ≤ 'f' then some (c.toNat - 'a'.toNat + 10)
    else if 'A' ≤ c ∧ c ≤ 'F' then some (c.toNat - 'A'.toNat + 10)
    else none
  value.filter (· < base)

def digitRun (base : Nat) : List Char → List Nat × List Char
  | [] => ([], [])
  | c :: rest =>
      match digitIn base c with
      | none => ([], c :: rest)
      | some d => let run := digitRun base rest; (d :: run.1, run.2)

def valueOf (base : Nat) (digits : List Nat) : Nat := digits.foldl (fun n d => n * base + d) 0

def octet : Reader UInt8 := fun text =>
  let run := digitRun 10 text
  let value := valueOf 10 run.1
  if run.1 = [] ∨ 3 < run.1.length ∨ (run.1.head? = some 0 ∧ 1 < run.1.length) ∨ 255 < value then none
  else some (UInt8.ofNat value, run.2)

def group : Reader UInt16 := fun text =>
  let run := digitRun 16 text
  if run.1 = [] ∨ 4 < run.1.length then none
  else some (UInt16.ofNat (valueOf 16 run.1), run.2)

def expect (mark : Char) : Reader Unit
  | [] => none
  | c :: rest => if c = mark then some ((), rest) else none

structure Quad where
  a : UInt8
  b : UInt8
  c : UInt8
  d : UInt8

def quad : Reader Quad := fun text => do
  let (a, text) ← octet text
  let (_, text) ← expect '.' text
  let (b, text) ← octet text
  let (_, text) ← expect '.' text
  let (c, text) ← octet text
  let (_, text) ← expect '.' text
  let (d, text) ← octet text
  return (⟨a, b, c, d⟩, text)

def Quad.groups (q : Quad) : List UInt16 :=
  [q.a.toUInt16 * 256 + q.b.toUInt16, q.c.toUInt16 * 256 + q.d.toUInt16]

def separated (isFirst : Bool) (item : Reader α) : Reader α := fun text =>
  if isFirst then item text
  else do
    let (_, text) ← expect ':' text
    item text

structure GroupRun where
  groups : List UInt16
  endsInQuad : Bool
  rest : List Char

def groupRun : Nat → Bool → List Char → GroupRun
  | 0, _, text => ⟨[], false, text⟩
  | limit + 1, isFirst, text =>
      match (if limit = 0 then none else separated isFirst quad text) with
      | some (q, rest) => ⟨q.groups, true, rest⟩
      | none =>
          match separated isFirst group text with
          | none => ⟨[], false, text⟩
          | some (g, rest) =>
              let run := groupRun limit false rest
              ⟨g :: run.groups, run.endsInQuad, run.rest⟩

def ofGroups (groups : List UInt16) : IpAddress :=
  .v6 (Vector.ofFn fun i => groups.getD i.val 0)

def v6Text : Reader IpAddress := fun text =>
  let head := groupRun 8 true text
  if head.groups.length = 8 then some (ofGroups head.groups, head.rest)
  else if head.endsInQuad then none
  else do
    let (_, text) ← expect ':' head.rest
    let (_, text) ← expect ':' text
    let tail := groupRun (7 - head.groups.length) true text
    let zeros := List.replicate (8 - head.groups.length - tail.groups.length) 0
    return (ofGroups (head.groups ++ zeros ++ tail.groups), tail.rest)

def v4Text : Reader IpAddress := fun text =>
  (quad text).map fun (q, rest) => (.v4 q.a q.b q.c q.d, rest)

def complete : Option (α × List Char) → Option α
  | some (value, []) => some value
  | _ => none

def ofText? (text : String) : Option IpAddress :=
  let chars := text.toList
  complete ((v4Text chars).or (v6Text chars))

end SharedPort.IpAddress
