import CommitStandard.CommandLine.Arguments
import CommitStandard.CommandLine.Disk
import CommitStandard.Lint.Markup
import CommitStandard.Lint.Terminal
import CommitStandard.Settings.Expansion
import CommitStandard.Settings.File

/-!
# Sessions

A session is one run of the program: it works on a file system, puts out lines and ends with an
exit code. Here is also what all commands do: finding the repository, loading its settings and
resolving its rules.
-/
namespace CommitStandard

/-- A line that is put out, and whether it is a complaint. -/
structure OutputLine where
  text : Text
  isComplaint : Bool
deriving DecidableEq, Repr

structure Outcome where
  exitCode : Nat
  output : List OutputLine
deriving DecidableEq, Repr

/-- Work in a session; it can end early with an exit code. -/
abbrev Session (m : Type → Type) := ExceptT Nat (StateT (List OutputLine) m)

namespace Session

variable {m : Type → Type} [Monad m]

def onFiles {α : Type} (x : m α) : Session m α := fun output => do
  let a ← x
  return (.ok a, output)

/-- Puts out a line as it is. -/
def put (s : Text) : Session m Unit := fun output => return (.ok (), output ++ [⟨s, false⟩])

/-- Puts out text as a terminal shows it. -/
def print (s : Text) : Session m Unit := (Terminal.printed (Text.withEmoji s)).forM put

/-- Puts out marked-up text as a terminal shows it. A tag in it that closes nothing ends the
session. -/
def printMarked (s : Text) : Session m Unit :=
  match Markup.shown? s with
  | some shown => (Terminal.printed shown).forM put
  | none => throw 1

def complain (s : Text) : Session m Unit := fun output =>
  return (.ok (), output ++ [⟨s, true⟩])

def putNotices (notices : List Notice) : Session m Unit := notices.forM fun n => put n.message

/-- Ends the session because of an error. -/
def abort {α : Type} (reason : Text) : Session m α := do
  printMarked (Markup.styled "red" ("Error: ".toList ++ reason))
  complain "Aborted!".toList
  throw 1

/-- Ends the session because the arguments are not understood. -/
def refuse {α : Type} (scene : Scene) (fault : UsageFault) : Session m α := do
  if fault.showsUsage then
    complain ("Usage: ".toList ++ scene.usage)
    let question := Text.literal (scene.words ++ " --help".toList)
    complain ("Try ".toList ++ question ++ " for help.".toList)
    complain []
  complain ("Error: ".toList ++ fault.message)
  throw 2

/-- Runs a session from its start; one that does not end early has the exit code 0. -/
def run (s : Session m Unit) : m Outcome := do
  match ← s [] with
  | (.ok (), output) => return ⟨0, output⟩
  | (.error code, output) => return ⟨code, output⟩

end Session

structure Repository where
  /-- Its place, as seen from the root of the file system. -/
  path : Text
deriving DecidableEq, Repr

namespace Repository

def settingsPath (r : Repository) : Text := FilePath.inside r.path settingsFile

/-- The path of the message that is being written. -/
def messagePath (r : Repository) : Text := FilePath.inside r.path ".git/COMMIT_EDITMSG".toList

variable {m : Type → Type} [Monad m]

/-- Whether there is something under the path of the settings file. -/
def hasSettings (r : Repository) (fs : FileSystem m) : m Bool := do
  return (← fs.isFile r.settingsPath) || (← fs.isDirectory r.settingsPath)

/-- Loads the settings. Without a settings file the environment decides. -/
def load (r : Repository) (p : Platform) (fs : FileSystem m) (env : Environment) :
    m (Except LoadFault Loaded) := do
  let default := Settings.ofEnvironment p.coercions env
  if ← fs.isFile r.settingsPath then
    match ← fs.read r.settingsPath with
    | some s => return Settings.ofDocument p env s
    | none => return .error .notText
  else if ← fs.isDirectory r.settingsPath then
    return .ok ⟨default, [.unreadable "it is a directory".toList]⟩
  else return .ok ⟨default, []⟩

/-- The rules for the engine; directory patterns are looked up in the repository. -/
def rules (r : Repository) (p : Platform) (fs : FileSystem m) (s : Settings) :
    m (Except ResolveFault Entries) := do
  let bases := match Settings.searched p.displayDepth s.rules with
    | .ok bases => bases
    | .error _ => []
  let found ← bases.mapM fun base => do
    return (base, ← fs.subdirectories (FilePath.seenFrom r.path base))
  return s.resolve p fun base => (found.lookup base).getD (.ok [])

end Repository

end CommitStandard
