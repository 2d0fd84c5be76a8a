/-! Log records as values: a computation that logs returns its records beside its result. A filter from outside gives
limits to the sources whose name begins in a certain way, separated by commas, and behind a slash a text that a record
has to contain. -/
namespace SharedPort.Log

inductive Level
  | error
  | warn
  | info
  | debug
  | trace
  deriving DecidableEq, Repr

namespace Level

def rank : Level → Nat
  | .error => 1
  | .warn => 2
  | .info => 3
  | .debug => 4
  | .trace => 5

def name : Level → String
  | .error => "error"
  | .warn => "warn"
  | .info => "info"
  | .debug => "debug"
  | .trace => "trace"

def all : List Level := [.error, .warn, .info, .debug, .trace]

end Level

abbrev Limit := Option Level

namespace Limit

def rank : Limit → Nat
  | none => 0
  | some level => level.rank

def name : Limit → String
  | none => "off"
  | some level => level.name

def ofName? (text : String) : Option Limit :=
  let lowered := text.toLower
  if lowered = "off" then some none
  else (Level.all.find? (·.name == lowered)).map some

def parse (text : String) : Limit := (ofName? text).getD (some .info)

/-- The limit once a level is asked for. A filter from outside, if there is one, stays in force. -/
def choose (current : Limit) (hasFilter : Bool) (level : String) : Limit :=
  if hasFilter then current else parse level

def admits (limit : Limit) (level : Level) : Bool := level.rank ≤ rank limit

end Limit

inductive Source
  | program
  | loader
  | validator
  | selector
  | gateway
  deriving DecidableEq, Repr

def Source.name : Source → String
  | .program => "port_selector"
  | .loader => "port_selector::config::loader"
  | .validator => "port_selector::config::validator"
  | .selector => "port_selector::selector::server"
  | .gateway => "port_selector::gateway::service"

structure Entry where
  level : Level
  source : Source
  text : String
  deriving DecidableEq, Repr

structure Logged (α : Type) where
  value : α
  log : List Entry := []
  deriving Repr

def warnings (log : List Entry) : List String :=
  (log.filter (·.level = .warn)).map Entry.text

structure Directive where
  source : Option String
  limit : Limit
  deriving DecidableEq, Repr

structure Filter where
  directives : List Directive
  text : Option String := none
  deriving DecidableEq, Repr

inductive Refused
  | unreadable (part : String)
  | slashes (spec : String)
  deriving DecidableEq, Repr

def Refused.message : Refused → String
  | .unreadable part => s!"invalid logging spec '{part}'"
  | .slashes spec => s!"invalid logging spec '{spec}' (too many '/'s)"

namespace Filter

def trimmed (s : String) : String := s.trimAscii.toString

def directive (part : String) : Except String Directive :=
  match part.splitOn "=" with
  | [single] =>
      match Limit.ofName? single with
      | some limit => .ok ⟨none, limit⟩
      | none => .ok ⟨some single, some .trace⟩
  | [source, level] =>
      let level := trimmed level
      if level = "" then .ok ⟨some source, some .trace⟩
      else
        match Limit.ofName? level with
        | some limit => .ok ⟨some source, limit⟩
        | none => .error level
  | _ => .error part

/-- Of two directives for the same sources the later one counts. -/
def insert (directives : List Directive) (d : Directive) : List Directive :=
  if directives.any (·.source = d.source) then directives.map fun old => if old.source = d.source then d else old
  else directives ++ [d]

def readAll (parts : List String) : List Directive × List Refused :=
  parts.foldl (fun (directives, refused) part =>
    let part := trimmed part
    if part = "" then (directives, refused)
    else
      match directive part with
      | .ok d => (insert directives d, refused)
      | .error text => (directives, refused ++ [.unreadable text])) ([], [])

def parse (spec : String) : Filter × List Refused :=
  let (directives, text, refused) : List Directive × Option String × List Refused :=
    match spec.splitOn "/" with
    | [parts] => let (ds, refused) := readAll (parts.splitOn ","); (ds, none, refused)
    | [parts, text] => let (ds, refused) := readAll (parts.splitOn ","); (ds, some text, refused)
    | _ => ([], none, [.slashes spec])
  (⟨if directives.isEmpty then [⟨none, some .error⟩] else directives, text⟩, refused)

def weight (d : Directive) : Nat := (d.source.map String.utf8ByteSize).getD 0

def strongest (source : String) (directives : List Directive) : Option Directive :=
  directives.foldl (fun best d =>
    if d.source.all fun beginning => beginning.toList.isPrefixOf source.toList then
      match best with
      | some b => if weight b ≤ weight d then some d else some b
      | none => some d
    else best) none

def containsText (part : List Char) : List Char → Bool
  | [] => part.isEmpty
  | c :: rest => part.isPrefixOf (c :: rest) || containsText part rest

def admits (f : Filter) (e : Entry) : Bool :=
  (strongest e.source.name f.directives).any (·.limit.admits e.level) &&
    f.text.all fun part => containsText part.toList e.text.toList

end Filter

inductive Gate
  | filter (f : Filter)
  | limit (l : Limit)

def Gate.admits : Gate → Entry → Bool
  | .filter f, e => f.admits e
  | .limit l, e => l.admits e.level

def Gate.choose (level : String) : Gate → Gate
  | .filter f => .filter f
  | .limit _ => .limit (Limit.parse level)

def Level.label (l : Level) : String :=
  let name := l.name.toUpper
  name ++ String.ofList (List.replicate (5 - name.length) ' ')

def Entry.lines (e : Entry) : List String :=
  match e.text.splitOn "\n" with
  | [] => []
  | first :: rest => s!"[{e.level.label} {e.source.name}] {first}" :: rest.map ("    " ++ ·)

end SharedPort.Log
