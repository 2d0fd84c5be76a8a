import SharedPort.CommandLine.Run

/-! The program itself: it collects the files and variables that a run may look at, and prints what the run says. It
opens no sockets, so a gateway is made ready and its serving is left to whoever embeds it. -/
namespace SharedPort.CommandLine

def entryAt (path : String) : IO (Option (String × FileEntry)) := do
  let full := (← IO.currentDir) / path
  if ← full.isDir then return some (path, .directory)
  else if ← full.pathExists then
    let content ← IO.FS.readBinFile full
    return some (path, .file content.toList)
  else return none

def collectFiles (path : String) : IO FileTree := do
  let here := FileTree.components (← IO.currentDir).toString
  let paths := path :: (Config.withEnding (.ofList here []) path).toList
  return .ofList here ((← paths.mapM entryAt).filterMap id)

/-- The variables that the process was started with; none where the system does not show them. -/
def collectVariables : IO Config.Environment := do
  try
    return .ofBlock (← IO.FS.readBinFile "/proc/self/environ").toList
  catch _ => return []

end SharedPort.CommandLine

open SharedPort SharedPort.CommandLine in
def main (texts : List String) : IO UInt32 := do
  let env ← collectVariables
  let path := ((read env texts).toOption.bind (·.configFile)).getD Config.defaultFile
  let outcome := run localResolver (← collectFiles path) env texts
  outcome.output.forM IO.println
  outcome.diagnostics.forM IO.eprintln
  match outcome.ending with
  | .exit code => return .ofNat code
  | .serving _ =>
      IO.eprintln "no sockets here: the gateway is ready but does not serve"
      return 1
