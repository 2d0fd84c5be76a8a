import SharedPort.CommandLine.Arguments
import SharedPort.Config.Load
import SharedPort.Gateway.Basic
import SharedPort.Log

/-! A run of the program as a function of its arguments, its environment and the files around it: what it prints, and
how it ends. A gateway that begins to serve does not end by itself. -/
namespace SharedPort.CommandLine
open Log (Entry Gate)

def appName : String := "port-selector"
def version : String := "0.1.0"

inductive Ending
  | exit (code : Nat)
  | serving (gateway : Gateway)

structure Outcome where
  ending : Ending
  output : List String := []
  diagnostics : List String := []

def filterVariable : String := "RUST_LOG"

def openGate (env : Config.Environment) (level : Option String) : Gate × List String :=
  match env.lookup filterVariable with
  | some spec =>
      let (f, refused) := Log.Filter.parse spec
      (.filter f, refused.map fun r => s!"warning: {r.message}, ignoring it")
  | none => (.limit (Log.Limit.parse (level.getD "info")), [])

def passed (gate : Gate) (log : List Entry) : List String := (log.filter gate.admits).flatMap Entry.lines

def program (level : Log.Level) (text : String) : Entry := ⟨level, .program, text⟩

def failure (e : Error) : Entry := program .error s!"{appName}: {e.message}"

def serveLog (c : Config) (made : Log.Logged (Except Error Gateway)) : List Entry :=
  let intro := program .info
    s!"Listening on {c.listenDisplay}, header size {c.headerSize.toNat}, match mode {c.matchMode.name}"
  match made.value with
  | .error e => intro :: made.log ++ [failure e]
  | .ok g =>
      let ready := program .info s!"Gateway ready on {g.selector.setup.address.render}, press Ctrl+C to stop"
      intro :: made.log ++ ready :: g.serving

def runWith (lookup : Resolver) (files : FileTree) (env : Config.Environment) (a : Arguments) : Outcome :=
  let (gate, warnings) := openGate env a.logLevel
  let resolved := Config.resolve files env a.configFile a.overrides
  let started := program .info s!"Starting {appName} v{version}" :: resolved.log
  match resolved.value with
  | .error e => ⟨.exit 1, [], warnings ++ passed gate (started ++ [failure e])⟩
  | .ok c =>
      let later := gate.choose c.logLevel
      let said := warnings ++ passed gate started
      if a.check then ⟨.exit 0, [], said ++ passed later [program .info "Configuration is valid"]⟩
      else
        let made := Gateway.ofConfig lookup c
        let ending := match made.value with
          | .ok g => Ending.serving g
          | .error _ => .exit 1
        ⟨ending, [], said ++ passed later (serveLog c made)⟩

def run (lookup : Resolver) (files : FileTree) (env : Config.Environment) (texts : List String) : Outcome :=
  match read env texts with
  | .error .usage => { ending := .exit 2 }
  | .error .version => { ending := .exit 0, output := [s!"{appName} {version}"] }
  | .error .help => { ending := .exit 0, output := [s!"Usage: {appName} [OPTIONS]"] }
  | .ok a => runWith lookup files env a

end SharedPort.CommandLine
