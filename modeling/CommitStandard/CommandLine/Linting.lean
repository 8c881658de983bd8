import CommitStandard.CommandLine.Session
import CommitStandard.Lint.Basic

/-!
# Linting from the command line

The command lints one message file, which is the message that is being written unless another is
named. It reports on the console and in a log file and, if asked, writes the repaired message
back. Changed files are not looked up.
-/
namespace CommitStandard

inductive LogFault where
  /-- The directory of the log file is a file. -/
  | directoryIsFile (path : Text)
  /-- Something on the way to the directory of the log file is a file. -/
  | noWayTo (path : Text)
  /-- The log file is a directory. -/
  | isDirectory (path : Text)
deriving DecidableEq, Repr

/-- The wording of a fault, with its number in the system. -/
def LogFault.message : LogFault → Text
  | directoryIsFile path => "[Errno 17] File exists: ".toList ++ Text.literal path
  | noWayTo path => "[Errno 20] Not a directory: ".toList ++ Text.literal path
  | isDirectory path => "[Errno 21] Is a directory: ".toList ++ Text.literal path

namespace Linting

variable {m : Type → Type} [Monad m]

/-- What keeps a log file from being written, as far as its directory is concerned. -/
def directoryFault? (fs : FileSystem m) (log : Text) : m (Option LogFault) := do
  let directory := FilePath.directoryOf log
  if ← fs.isFile directory then return some (.directoryIsFile directory)
  else if ← (FilePath.ancestors directory).anyM fs.isFile then return some (.noWayTo directory)
  else return none

/-- The log file: the one named by a switch, or else the one from the settings. -/
def chooseLog (fs : FileSystem m) (a : Arguments) (s : Settings) : Session m (Option Text) :=
  match a.value? .logFile with
  | some path => return some (FilePath.normal path)
  | none => do
    let (target, notices) := s.logTarget
    Session.putNotices notices
    match target with
    | .nowhere => return none
    | .timed => return some (← Session.onFiles fs.timedLogName)
    | .file path => return some (FilePath.normal path)

def writeLog (fs : FileSystem m) (log : Option Text) (entries : List Text) : Session m Unit := do
  match log with
  | none => return
  | some path =>
    if ← Session.onFiles (fs.isDirectory path) then
      Session.abort (LogFault.isDirectory path).message
    entries.forM fun e => Session.onFiles (fs.appendEntry path e)

/-- The notice that changed files are not known. -/
def noRepository : Text :=
  "Warning: Not a git repository, namespace alignment is not checked".toList

/-- Lints a message file and reports. Tells whether the message is valid. -/
def lintFile (fs : FileSystem m) (linter : Linter) (log : Option Text) (a : Arguments)
    (path : Text) : Session m Bool := do
  if !a.has .noContext then Session.put noRepository
  match ← Session.onFiles (fs.read path) with
  | none => Session.abort LoadFault.notText.message
  | some s =>
    match linter.lint ⟨path, Text.plainLines s, none⟩ (a.has .fix) with
    | .error e => Session.abort e.message
    | .ok r =>
      (Log.consoleLines r).forM Session.put
      writeLog fs log (Log.fileEntries r)
      Session.put (Log.consoleTotal [r])
      writeLog fs log [Log.fileTotal [r]]
      if a.has .fix then
        Session.onFiles (fs.write path (r.message.unpainted.render ++ ['\n']))
        Session.printMarked (Markup.styled "green" ("Wrote repaired message to ".toList ++ path))
      return r.valid

/-- The path of the message file: the one named, or else the one that is being written. -/
def messagePath (repository : Repository) (a : Arguments) : Text × Bool :=
  match a.operands with
  | (c :: cs) :: _ => (FilePath.normal (c :: cs), true)
  | _ => (repository.messagePath, false)

/-- Lints under settings and the rules that they stand for. -/
def lintUnder (fs : FileSystem m) (repository : Repository) (a : Arguments) (s : Settings)
    (engine : Engine) : Session m Unit := do
  let linter : Linter := ⟨engine, s.headerOptions, some Terminal.highlight⟩
  let log ← chooseLog fs a s
  if let some path := log then
    if let some e ← Session.onFiles (directoryFault? fs path) then Session.abort e.message
  let (path, named) := messagePath repository a
  if ← Session.onFiles (fs.isFile path) then
    if !(← lintFile fs linter log a path) then throw 1
  else if named then
    Session.abort (FilePath.collapsed repository.path)
  else
    Session.abort ("No commit message file at ".toList ++ path)

def run (p : Platform) (fs : FileSystem m) (env : Environment) (repository : Repository)
    (a : Arguments) : Session m Unit := do
  match ← Session.onFiles (repository.load p fs env) with
  | .error e => Session.abort e.message
  | .ok loaded =>
    Session.putNotices loaded.notices
    match ← Session.onFiles (repository.rules p fs loaded.settings) with
    | .error e => Session.abort e.message
    | .ok rules => lintUnder fs repository a loaded.settings (Engine.ofRules p.coercions rules)

end Linting

end CommitStandard
