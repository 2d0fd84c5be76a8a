import SharedPort.Config.Basic
import SharedPort.Config.Names
import SharedPort.Config.Settings.Tree
import SharedPort.Number
import SharedPort.Text.Basic
import SharedPort.Text.Unicode

/-! Reading a configuration from a tree of settings, into which the variables of an environment can be put. A variable
counts if its name begins with the program's own beginning, whatever the case. Scalars are converted where that makes
sense; a setting that the tree does not have keeps its default. -/
namespace SharedPort.Settings.Environment

def beginning : String := "port_selector_"

def pointed : List Char → List Char
  | '_' :: '_' :: rest => '.' :: pointed rest
  | c :: rest => c :: pointed rest
  | [] => []

def key? (name : String) : Option String :=
  let name := (lowerKey name).toList
  if beginning.toList.isPrefixOf name then
    some (String.ofList (pointed (name.drop beginning.length)))
  else none

def scalar (text : String) : Scalar :=
  if Lowercase.lower text = "true" then .boolean true
  else if Lowercase.lower text = "false" then .boolean false
  else
    match Decimal.signed Decimal.bound63 text.toList with
    | .ok n => .integer n
    | .error _ =>
        match Binary64.ofText? text with
        | some x => .float x
        | none => .text text

def put (root : Node) (name value : String) : Node :=
  match key? name with
  | some key => root.putKey key (.scalar (some .environment) (scalar value))
  | none => root

end SharedPort.Settings.Environment

namespace SharedPort.Settings

inductive Shape
  | unit
  | boolean (value : Bool)
  | integer (value : Int)
  | natural (value : Nat)
  | float (value : Binary64)
  | text (value : String)
  | sequence
  | mapping
  deriving DecidableEq, Repr

def Node.shape : Node → Shape
  | .scalar _ .nil => .unit
  | .scalar _ (.boolean b) => .boolean b
  | .scalar _ (.integer n) => .integer n
  | .scalar _ (.float x) => .float x
  | .scalar _ (.text s) => .text s
  | .array .. => .sequence
  | .table .. => .mapping

def Node.origin : Node → Option Origin
  | .scalar origin _ => origin
  | .array origin _ => origin
  | .table origin _ => origin

def Shape.describeStored : Shape → String
  | .unit => "unit value"
  | .boolean b => s!"boolean `{b}`"
  | .integer n => s!"64-bit integer `{n}`"
  | .natural n => s!"64-bit unsigned integer `{n}`"
  | .float x => s!"floating point `{x.plain}`"
  | .text s => s!"string {Quoted.text s}"
  | .sequence => "sequence"
  | .mapping => "map"

def Shape.describe : Shape → String
  | .integer n => s!"integer `{n}`"
  | .natural n => s!"integer `{n}`"
  | .float x => s!"floating point `{x.pointed}`"
  | shape => shape.describeStored

inductive Wanted
  | integer
  | unsigned
  | unsigned16
  | unsigned32
  | text
  deriving DecidableEq, Repr

def Wanted.describe : Wanted → String
  | .integer => "an integer"
  | .unsigned => "an unsigned 64 bit or less integer"
  | .unsigned16 => "an unsigned 16 bit integer"
  | .unsigned32 => "an unsigned 32 bit integer"
  | .text => "a string"

inductive WantedShape
  | sequence
  | route
  deriving DecidableEq, Repr

def WantedShape.describe : WantedShape → String
  | .sequence => "a sequence"
  | .route => "struct RouteConfig"

inductive Fault
  | unconvertible (found : Shape) (wanted : Wanted) (place : String) (origin : Option Origin)
  | wrongShape (found : Shape) (wanted : WantedShape)
  | missingField (name : String)
  | tooShort (length : Nat)
  | unsupportedNetwork (name : String)
  | invalidMatchMode (name : String)
  deriving DecidableEq, Repr

def Fault.message : Fault → String
  | .unconvertible found wanted place origin =>
      let source := match origin with
        | some origin => " in " ++ origin.describe
        | none => ""
      s!"invalid type: {found.describeStored}, expected {wanted.describe} for key `{place}`{source}"
  | .wrongShape found wanted => s!"invalid type: {found.describe}, expected {wanted.describe}"
  | .missingField name => s!"missing field `{name}`"
  | .tooShort length => s!"invalid length {length}, expected struct RouteConfig with 2 elements"
  | .unsupportedNetwork name => Network.unsupportedMessage name
  | .invalidMatchMode name => "Configuration error: " ++ MatchMode.invalidText name

def truthWord? (text : String) : Option Nat :=
  let word := Lowercase.lower text
  if word = "true" ∨ word = "on" ∨ word = "yes" then some 1
  else if word = "false" ∨ word = "off" ∨ word = "no" then some 0
  else none

def unsigned (place : String) (n : Node) : Except Fault Nat :=
  let refuse (wanted : Wanted) : Except Fault Nat := .error (.unconvertible n.shape wanted place n.origin)
  match n with
  | .scalar _ (.integer i) => if 0 ≤ i then .ok i.toNat else refuse .unsigned
  | .scalar _ (.float x) => .ok (x.saturate Decimal.bound64)
  | .scalar _ (.boolean b) => .ok b.toNat
  | .scalar _ (.text s) =>
      match truthWord? s with
      | some value => .ok value
      | none =>
          match Decimal.unsigned Decimal.bound64 s.toList with
          | .ok value => .ok value
          | .error _ => refuse .integer
  | _ => refuse .integer

def bounded (bound : Nat) (wanted : Wanted) (place : String) (n : Node) : Except Fault Nat := do
  let value ← unsigned place n
  if value ≤ bound then return value
  else .error (.unconvertible (.natural value) wanted place none)

def text (place : String) (n : Node) : Except Fault String :=
  match n with
  | .scalar _ (.text s) => .ok s
  | .scalar _ (.boolean b) => .ok (toString b)
  | .scalar _ (.integer i) => .ok (toString i)
  | .scalar _ (.float x) => .ok x.plain
  | _ => .error (.unconvertible n.shape .text place n.origin)

def optionalText (place : String) (n : Node) : Except Fault (Option String) :=
  match n with
  | .scalar _ .nil => .ok none
  | _ => (text place n).map some

def network (place : String) (n : Node) : Except Fault Network := do
  let name ← text place n
  match Network.ofName? name with
  | some network => return network
  | none => .error (.unsupportedNetwork name)

def matchMode (place : String) (n : Node) : Except Fault MatchMode := do
  let name ← text place n
  match MatchMode.ofName? name with
  | some mode => return mode
  | none => .error (.invalidMatchMode name)

def route (place : String) (n : Node) : Except Fault RouteConfig :=
  match n with
  | .table .. => do
      let key ← (n.get? "key").mapM (text (place ++ "key"))
      let target ← (n.get? "target").mapM (text (place ++ "target"))
      match key, target with
      | none, _ => .error (.missingField "key")
      | _, none => .error (.missingField "target")
      | some key, some target => return ⟨key, target⟩
  | .array _ items =>
      match items with
      | [] => .error (.tooShort 0)
      | key :: rest => do
          let key ← text (place ++ "[0]") key
          match rest with
          | [] => .error (.tooShort 1)
          | target :: _ => return ⟨key, ← text (place ++ "[1]") target⟩
  | _ => .error (.wrongShape n.shape .route)

def routesFrom (place : String) (i : Nat) : List Node → Except Fault (List RouteConfig)
  | [] => .ok []
  | n :: rest => do
      let r ← route s!"{place}[{i}]" n
      let others ← routesFrom place (i + 1) rest
      return r :: others

def routes (place : String) (n : Node) : Except Fault (List RouteConfig) :=
  match n with
  | .array _ items => routesFrom place 0 items
  | _ => .error (.wrongShape n.shape .sequence)

open Config in
def readField (c : Config) (field : Field) (n : Node) : Except Fault Config :=
  let place := field.name
  match field with
  | .network => do return { c with network := ← network place n }
  | .host => do return { c with host := ← optionalText place n }
  | .port => do return { c with port := .ofNat (← bounded (Nat.pow 2 16 - 1) .unsigned16 place n) }
  | .listenBacklog => do return { c with listenBacklog := .ofNat (← bounded (Nat.pow 2 32 - 1) .unsigned32 place n) }
  | .headerSize => do return { c with headerSize := .ofNat (← unsigned place n) }
  | .matchMode => do return { c with matchMode := ← matchMode place n }
  | .peekTimeoutMs => do return { c with peekTimeoutMs := .ofNat (← unsigned place n) }
  | .queueCapacity => do return { c with queueCapacity := .ofNat (← unsigned place n) }
  | .routes => do return { c with routes := ← routes place n }
  | .defaultTarget => do return { c with defaultTarget := ← optionalText place n }
  | .logLevel => do return { c with logLevel := ← text place n }
  | .bufferSize => do return { c with bufferSize := .ofNat (← unsigned place n) }
  | .connectionTimeout => do return { c with connectionTimeout := .ofNat (← unsigned place n) }

def toConfig (root : Node) : Except Fault Config :=
  Config.Field.all.foldlM (fun c field =>
    match root.get? field.name with
    | some n => readField c field n
    | none => .ok c) {}

end SharedPort.Settings
