import SharedPort.Config.Basic
import SharedPort.Config.Reader
import SharedPort.Config.Settings.Reader
import SharedPort.Config.Validation

/-! Where configurations come from: a document, a file, or a file and environment variables together, with overrides and
validation on top. -/
namespace SharedPort.Config
open Log (Entry Logged)

abbrev Environment := List (String × String)

def Environment.ofAssignment? (bytes : Bytes) : Option (String × String) := do
  let text ← Utf8.decode? bytes
  let name := text.toList.takeWhile (· ≠ '=')
  match text.toList.dropWhile (· ≠ '=') with
  | [] => none
  | _ :: value => return (String.ofList name, String.ofList value)

def Environment.ofBlock (block : Bytes) : Environment := (block.splitOn 0).filterMap ofAssignment?

def defaultFile : String := "config.json"

def parseJson (content : String) : Except Error Config :=
  (ofJson content).mapError fun fault => .config (.invalidDocument fault)

def readText (files : FileTree) (path : String) : Except FileFault String := do
  match Utf8.decode? (← files.read path) with
  | some content => return content
  | none => .error .notText

def ofFile (files : FileTree) (path : String) : Except Error Config :=
  match readText files path with
  | .error fault => .error (.config (.unreadableFile path fault))
  | .ok content => (ofJson content).mapError fun fault => .config (.invalidFile path fault)

def withEnding (files : FileTree) (path : String) : Option String :=
  let place := files.place path
  if place.getLast?.all (· = "..") then none else some (FileTree.ofPlace place ++ ".json")

def locate (files : FileTree) (path : String) : Option String :=
  if files.isFile path then some path else (withEnding files path).filter files.isFile

def fileSettings (file content : String) (root : Settings.Node) : Except LoadFault Settings.Node :=
  match Json.Value.ofText? content with
  | none => .error .malformed
  | some document =>
      match Settings.ofJson (.file file) document with
      | .table _ members => .ok (members.foldl (fun root (key, value) => root.putKey key value) root)
      | other => .error (.notMapping other.shape file)

/-- The settings of a file over none. A file that nobody asked for by name may be missing or unreadable. -/
def settingsOfFile (files : FileTree) (path : String) (isRequired : Bool) : Except LoadFault Settings.Node :=
  match locate files path with
  | none => if isRequired then .error (.noFile path) else .ok Settings.Node.emptyTable
  | some file =>
      match readText files file with
      | .error fault => if isRequired then .error (.unreadable fault) else .ok Settings.Node.emptyTable
      | .ok content => fileSettings (files.relative file) content Settings.Node.emptyTable

def settings (files : FileTree) (env : Environment) (path : String) (isRequired : Bool) :
    Except LoadFault Settings.Node := do
  let root ← settingsOfFile files path isRequired
  return env.foldl (fun root (name, value) => Settings.Environment.put root name value) root

def loadFrom (files : FileTree) (env : Environment) (path : String) (isRequired : Bool) : Except Error Config := do
  let root ← (settings files env path isRequired).mapError fun fault => .config (.unloadable fault)
  (Settings.toConfig root).mapError fun fault => .config (.invalidSettings fault)

def load (files : FileTree) (env : Environment) (path : Option String) : Logged (Except Error Config) :=
  let file := path.getD defaultFile
  let config := loadFrom files env file path.isSome
  if files.exists? file then
    ⟨config, [⟨.info, .loader, s!"Using configuration file: {file}"⟩]⟩
  else if path.isSome then ⟨.error (.config (.fileNotFound file)), []⟩
  else
    ⟨config, [⟨.debug, .loader, s!"Configuration file {file} not found, using defaults and environment"⟩]⟩

def resolve (files : FileTree) (env : Environment) (path : Option String) (overrides : Overrides) :
    Logged (Except Error Config) :=
  let loaded := load files env path
  match loaded.value with
  | .error e => ⟨.error e, loaded.log⟩
  | .ok config =>
      let config := overrides.apply config
      let checked := config.validate
      match checked.value with
      | .error e => ⟨.error e, loaded.log ++ checked.log⟩
      | .ok () =>
          let warnings := config.check.map fun w => (⟨.warn, .loader, w.message⟩ : Entry)
          ⟨.ok config, loaded.log ++ checked.log ++ warnings⟩

end SharedPort.Config
