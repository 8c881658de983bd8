import CommitStandard.CommandLine.Linting
import CommitStandard.CommandLine.Showing

/-!
# The program

Reads the arguments, checks what they name and runs a command. The main definition is
`Program.run`.
-/
namespace CommitStandard.Program

def version : Text := "0.1.0".toList

variable {m : Type → Type} [Monad m]

/-- Why the value of a switch cannot be used. -/
def valueFault? (fs : FileSystem m) (a : Arguments) (s : Switch) : m (Option UsageFault) := do
  let value := (a.value? s).getD []
  let reason := fun (before after : String) =>
    some (UsageFault.badValue s (before.toList ++ Text.literal value ++ after.toList))
  match s with
  | .path =>
    if ← fs.isDirectory value then return none
    else if ← fs.isFile value then return reason "Directory " " is a file."
    else return reason "Directory " " does not exist."
  | .logFile =>
    if ← fs.isDirectory value then return reason "File " " is a directory." else return none
  | _ => return none

/-- Checks the values of switches in the order given, and then the number of operands. -/
def check (fs : FileSystem m) (c : Command) (a : Arguments) : Session m Unit := do
  a.distinct.forM fun s => do
    if let some e ← Session.onFiles (valueFault? fs a s) then Session.refuse (.command c) e
  if c.operandLimit < a.operands.length then
    Session.refuse (.command c) (.extraOperands (a.operands.drop c.operandLimit))

def runCommand (p : Platform) (fs : FileSystem m) (env : Environment) (c : Command)
    (args : List Text) : Session m Unit := do
  match Arguments.read (.command c) args with
  | .error e => Session.refuse (.command c) e
  | .ok a =>
    if a.has .help then Session.put ("Usage: ".toList ++ (Scene.command c).usage)
    else
      check fs c a
      let here ← Session.onFiles fs.workingDirectory
      let repository : Repository := ⟨FilePath.absolute here ((a.value? .path).getD ['.'])⟩
      match c with
      | .lint => Linting.run p fs env repository a
      | .describe => Showing.describe p fs env repository
      | .config => Showing.config p fs env repository a

/-- Refuses a command that is not known. A word that looks like a switch is read as one first. -/
def refuseCommand (word : Text) (rest : List Text) : Session m Unit := do
  match Arguments.read .program (word :: rest) with
  | .error e => Session.refuse .program e
  | .ok a =>
    if a.has .help then Session.put ("Usage: ".toList ++ Scene.program.usage)
    else
      Session.refuse .program
        (.noSuchCommand word (Text.suggestions (Command.all.map Command.name) word))

def run (p : Platform) (fs : FileSystem m) (env : Environment) (args : List Text) : m Outcome :=
  Session.run do
    match Arguments.read .program args with
    | .error e => Session.refuse .program e
    | .ok a =>
      if a.has .version then Session.put version
      else
        match a.operands with
        | [] => Session.put ("Usage: ".toList ++ Scene.program.usage)
        | word :: rest =>
          if a.has .help then Session.put ("Usage: ".toList ++ Scene.program.usage)
          else
            match Command.ofName? word with
            | some c => runCommand p fs env c rest
            | none => refuseCommand word rest

end CommitStandard.Program
