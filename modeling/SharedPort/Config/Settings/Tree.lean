import SharedPort.Json.Value
import SharedPort.Text.Basic

/-! Settings from several sources in one tree. A value knows the source it came from, for messages; a table that was put
together here has none. A key names a place inside the tree by members and indices, and one that is not written so names
a member of the root as it stands. -/
namespace SharedPort.Settings

inductive Origin
  | file (name : String)
  | environment
  deriving DecidableEq, Repr

def Origin.describe : Origin → String
  | .file name => name
  | .environment => "the environment"

inductive Scalar
  | nil
  | boolean (value : Bool)
  | integer (value : Int)
  | float (value : Binary64)
  | text (value : String)
  deriving DecidableEq, Repr

inductive Node
  | scalar (origin : Option Origin) (value : Scalar)
  | array (origin : Option Origin) (items : List Node)
  | table (origin : Option Origin) (members : List (String × Node))
  deriving Repr

namespace Node

def nil : Node := .scalar none .nil
def emptyTable : Node := .table none []
def emptyArray : Node := .array none []

def asTable : Node → Node
  | .table origin members => .table origin members
  | _ => emptyTable

def asArray : Node → Node
  | .array origin items => .array origin items
  | _ => emptyArray

def get? (key : String) : Node → Option Node
  | .table _ members => (members.find? (·.1 = key)).map Prod.snd
  | _ => none

def set (n : Node) (key : String) (value : Node) : Node :=
  match n.asTable with
  | .table origin members => .table origin (Json.put key value members)
  | n => n

def position (index : Int) (length : Nat) : Nat :=
  if 0 ≤ index then index.toNat else length - index.natAbs

def modifyItem (index : Int) (change : Node → Node) (n : Node) : Node :=
  match n.asArray with
  | .array origin items =>
      let place := position index items.length
      let items := items ++ List.replicate (place + 1 - items.length) nil
      .array origin (items.modify place change)
  | n => n

end Node

/-- The small form of a letter in the name of a setting. Names of settings are ASCII; the Kelvin sign is the one other
character whose small form is an ASCII letter. -/
def lowerChar (c : Char) : Char := if c = '\u212a' then 'k' else c.toLower

def lowerKey (key : String) : String := key.map lowerChar

mutual

def merge : Option Node → Node → Node
  | existing, .table _ members => mergeMembers (existing.getD Node.emptyTable) members
  | _, .array origin items => .array origin items
  | _, .scalar origin value => .scalar origin value

def mergeMembers : Node → List (String × Node) → Node
  | target, [] => target
  | target, (key, value) :: rest =>
      let target := target.asTable
      mergeMembers (target.set (lowerKey key) (merge (target.get? (lowerKey key)) value)) rest

end

mutual

def ofJson (origin : Origin) : Json.Value → Node
  | .null => .scalar (some origin) .nil
  | .boolean b => .scalar (some origin) (.boolean b)
  | .number (.whole n) =>
      .scalar (some origin) (if n < Nat.pow 2 63 then .integer n else .float (.ofInt n))
  | .number (.float x) => .scalar (some origin) (.float x)
  | .text s => .scalar (some origin) (.text s)
  | .array items => .array (some origin) (ofItems origin items)
  | .object members => .table (some origin) (ofMembers origin members)

def ofItems (origin : Origin) : List Json.Value → List Node
  | [] => []
  | item :: rest => ofJson origin item :: ofItems origin rest

def ofMembers (origin : Origin) : List (String × Json.Value) → List (String × Node)
  | [] => []
  | (key, value) :: rest => (key, ofJson origin value) :: ofMembers origin rest

end

inductive Step
  | member (key : String)
  | index (place : Int)
  deriving DecidableEq, Repr

namespace Path

def isIdentifierChar (c : Char) : Bool :=
  c.isAlphanum || c == ' ' || c == '_' || c == '-'

def identifier? (text : List Char) : Option (String × List Char) :=
  let name := text.takeWhile isIdentifierChar
  if name = [] then none else some (String.ofList name, text.dropWhile isIdentifierChar)

def index? (text : List Char) : Option (Int × List Char) :=
  let isDigit (c : Char) : Bool := '0' ≤ c && c ≤ '9'
  let mark := text.take (if text.head? = some '-' ∨ text.head? = some '+' then 1 else 0)
  let rest := text.drop mark.length
  let digits := rest.takeWhile isDigit
  if digits = [] then none
  else
    match Decimal.signed Decimal.bound63 (mark ++ digits) with
    | .ok n => some (n, rest.dropWhile isDigit)
    | .error _ => none

def steps? : Nat → List Char → Option (List Step)
  | _, [] => some []
  | 0, _ => none
  | fuel + 1, '.' :: rest => do
      let (key, rest) ← identifier? rest
      let others ← steps? fuel rest
      return .member key :: others
  | fuel + 1, '[' :: rest => do
      match ← index? rest with
      | (place, ']' :: rest) =>
          let others ← steps? fuel rest
          return .index place :: others
      | _ => none
  | _, _ => none

def ofKey (key : String) : List Step :=
  let text := key.toList
  let parsed := do
    let (head, rest) ← identifier? text
    let others ← steps? text.length rest
    return Step.member head :: others
  parsed.getD [.member key]

end Path

def Node.put (value : Node) : List Step → Node → Node
  | [], _ => value
  | [.member key], n =>
      let n := n.asTable
      n.set (lowerKey key) (merge (n.get? (lowerKey key)) value)
  | [.index place], n => n.modifyItem place fun _ => value
  | .member key :: rest, n =>
      let n := n.asTable
      n.set (lowerKey key) (Node.put value rest ((n.get? (lowerKey key)).getD Node.nil))
  | .index place :: rest, n => n.modifyItem place (Node.put value rest)

def Node.putKey (n : Node) (key : String) (value : Node) : Node := Node.put value (Path.ofKey key) n

end SharedPort.Settings
