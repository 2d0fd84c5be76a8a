import SharedPort.Config.Basic
import SharedPort.Text.Basic

/-! The arguments of the program. They are read from left to right, and the first thing that settles the matter does:
something that cannot be read, or the wish to see the version or the help. -/
namespace SharedPort.CommandLine

structure Arguments where
  configFile : Option String := none
  network : Option Network := none
  host : Option String := none
  port : Option UInt16 := none
  headerSize : Option UInt64 := none
  matchMode : Option MatchMode := none
  peekTimeoutMs : Option UInt64 := none
  logLevel : Option String := none
  check : Bool := false
  deriving DecidableEq, Repr

def Arguments.overrides (a : Arguments) : Overrides :=
  ⟨a.network, a.host, a.port, a.headerSize, a.matchMode, a.peekTimeoutMs, a.logLevel⟩

inductive Valued
  | configFile
  | network
  | host
  | port
  | headerSize
  | matchMode
  | peekTimeoutMs
  | logLevel
  deriving DecidableEq, Repr

inductive Switch
  | valued (v : Valued)
  | check
  | version
  | help
  deriving DecidableEq, Repr

def longOption? (name : String) : Option Switch :=
  match name with
  | "config-file" => some (.valued .configFile)
  | "network" => some (.valued .network)
  | "host" => some (.valued .host)
  | "port" => some (.valued .port)
  | "header-size" => some (.valued .headerSize)
  | "match-mode" => some (.valued .matchMode)
  | "peek-timeout-ms" => some (.valued .peekTimeoutMs)
  | "log-level" => some (.valued .logLevel)
  | "check" => some .check
  | "version" => some .version
  | "help" => some .help
  | _ => none

def shortOption? (c : Char) : Option Switch :=
  match c with
  | 'c' => some (.valued .configFile)
  | 'p' => some (.valued .port)
  | 'V' => some .version
  | 'h' => some .help
  | _ => none

inductive Stop
  | usage
  | version
  | help
  deriving DecidableEq, Repr

def once (old : Option α) (new : Option α) : Except Stop (Option α) :=
  match old, new with
  | none, some value => .ok (some value)
  | _, _ => .error .usage

def number? (bound : Nat) (text : String) : Option Nat :=
  match Decimal.unsigned bound text.toList with
  | .ok n => some n
  | .error _ => none

/-- A port is read as a signed number, so that a negative zero is one. -/
def port? (text : String) : Option UInt16 :=
  match Decimal.signed Decimal.bound63 text.toList with
  | .ok n => if 0 ≤ n ∧ n ≤ 65535 then some (.ofNat n.toNat) else none
  | .error _ => none

def path? (text : String) : Option String := if text = "" then none else some text

def Arguments.set (a : Arguments) (v : Valued) (text : String) : Except Stop Arguments := do
  match v with
  | .configFile => return { a with configFile := ← once a.configFile (path? text) }
  | .network => return { a with network := ← once a.network (Network.ofName? text) }
  | .host => return { a with host := ← once a.host (some text) }
  | .port => return { a with port := ← once a.port (port? text) }
  | .headerSize =>
      return { a with headerSize := ← once a.headerSize ((number? Decimal.bound64 text).map .ofNat) }
  | .matchMode => return { a with matchMode := ← once a.matchMode (MatchMode.ofName? text) }
  | .peekTimeoutMs =>
      return { a with peekTimeoutMs := ← once a.peekTimeoutMs ((number? Decimal.bound64 text).map .ofNat) }
  | .logLevel => return { a with logLevel := ← once a.logLevel (some text) }

def Arguments.flag (a : Arguments) : Switch → Except Stop Arguments
  | .check => if a.check then .error .usage else .ok { a with check := true }
  | .version => .error .version
  | .help => .error .help
  | .valued _ => .error .usage

inductive Token
  | long (name : String) (value : Option String)
  | short (letters : List Char)
  | rest
  | positional
  deriving DecidableEq, Repr

def Token.ofArgument (text : String) : Token :=
  match text.toList with
  | ['-', '-'] => .rest
  | '-' :: '-' :: chars =>
      let name := chars.takeWhile (· ≠ '=')
      match chars.dropWhile (· ≠ '=') with
      | [] => .long (String.ofList name) none
      | _ :: value => .long (String.ofList name) (some (String.ofList value))
  | ['-'] => .positional
  | '-' :: letters => .short letters
  | _ => .positional

abbrev Waiting := Option Valued

def cluster (a : Arguments) : List Char → Except Stop (Arguments × Waiting)
  | [] => .ok (a, none)
  | c :: rest =>
      match shortOption? c with
      | none => .error .usage
      | some (.valued v) =>
          match rest with
          | [] => .ok (a, some v)
          | '=' :: value => do return (← a.set v (String.ofList value), none)
          | value => do return (← a.set v (String.ofList value), none)
      | some option => do
          let a ← a.flag option
          cluster a rest

def token (a : Arguments) : Token → Except Stop (Arguments × Waiting)
  | .long name value =>
      match longOption? name, value with
      | none, _ => .error .usage
      | some (.valued v), some value => do return (← a.set v value, none)
      | some (.valued v), none => .ok (a, some v)
      | some _, some _ => .error .usage
      | some option, none => do return (← a.flag option, none)
  | .short letters => cluster a letters
  | .rest => .ok (a, none)
  | .positional => .error .usage

/-- The arguments one after another. Nothing may follow two lone hyphens, and an option does not take what looks like an
option as its value. -/
def readFrom : Waiting → Arguments → List String → Except Stop Arguments
  | none, a, [] => .ok a
  | some _, _, [] => .error .usage
  | some v, a, text :: rest =>
      match Token.ofArgument text with
      | .positional => do
          let a ← a.set v text
          readFrom none a rest
      | _ => .error .usage
  | none, a, text :: rest =>
      match Token.ofArgument text with
      | .rest => if rest.isEmpty then .ok a else .error .usage
      | t => do
          let (a, waiting) ← token a t
          readFrom waiting a rest

def configFileVariable : String := "PORT_SELECTOR_CONFIG_FILE"

def read (env : List (String × String)) (texts : List String) : Except Stop Arguments := do
  let a ← readFrom none {} texts
  match a.configFile, env.lookup configFileVariable with
  | none, some path => a.set .configFile path
  | _, _ => return a

end SharedPort.CommandLine
