import CommitStandard.CommandLine.Program
import CommitStandard.Toml.Writer
import Std.Time.Format

/-!
# The command line

Runs the program on the files of the system, with the environment and the arguments that it was
started with.
-/
namespace CommitStandard.Main

/-- The present time, written with the fields of a pattern. -/
def now (pattern : String) : IO String := do
  return (← Std.Time.PlainDateTime.now).format pattern

/-- Tells what is under a path: nothing, a directory or something else. -/
def isDirectory? (path : Text) : IO (Option Bool) := do
  try
    let place ← IO.FS.realPath (String.ofList path)
    if ← place.pathExists then return some (← place.isDir) else return none
  catch _ => return none

def subdirectories (path : Text) : IO (Except Text (List Text)) := do
  if (← isDirectory? path) != some true then return .ok []
  try
    let place ← IO.FS.realPath (String.ofList path)
    let mut names := []
    for found in ← place.readDir do
      if ← found.path.isDir then names := found.fileName.toList :: names
    return .ok names
  catch e => return .error (toString e).toList

/-- Adds an entry with the present time to a log file. -/
def appendEntry (path entry : Text) : IO Unit := do
  IO.FS.createDirAll (String.ofList (FilePath.directoryOf path))
  let file ← IO.FS.Handle.mk (String.ofList path) .append
  file.putStrLn ((← now "uuuu-MM-dd HH:mm:ss") ++ " - " ++ String.ofList entry)

def systemFiles : FileSystem IO where
  workingDirectory := return (← IO.currentDir).toString.toList
  isFile path := return (← isDirectory? path) == some false
  isDirectory path := return (← isDirectory? path) == some true
  subdirectories := subdirectories
  read path := do
    let content ← IO.FS.readBinFile (String.ofList path)
    return (String.fromUTF8? content).map String.toList
  write path s := IO.FS.writeFile (String.ofList path) (String.ofList s)
  appendEntry := appendEntry
  timedLogName := return ("commitional_log-" ++ (← now "uuuu-MM-dd_HH-mm-ss") ++ ".log").toList

/-- The variables that settings can come from. -/
def environment : IO Environment := do
  let fields : List Settings.Field :=
    [.enableMultipleScopes, .scopeDelimiter, .breakingEmoji, .alwaysLog, .logFile]
  let values ← (fields.filterMap Settings.Field.variable?).mapM fun name => do
    return (← IO.getEnv (String.ofList name)).map fun value => (name, value.toList)
  return values.filterMap id

def put (line : OutputLine) : IO Unit := do
  let stream ← if line.isComplaint then IO.getStderr else IO.getStdout
  stream.putStrLn (String.ofList line.text)
  stream.flush

end CommitStandard.Main

open CommitStandard in
/-- Runs the program and ends with its exit code. -/
def main (args : List String) : IO UInt32 := do
  let outcome ←
    Program.run .standard Main.systemFiles (← Main.environment) (args.map String.toList)
  outcome.output.forM Main.put
  return outcome.exitCode.toUInt32
