import CommitStandard.CommandLine.Path
import CommitStandard.Text.Literal

/-!
# Files and directories

The program sees files through a `FileSystem`. A `Disk` is a file system as a value: a working
directory with directories and text files below it. A path that leads out of the working directory
leads nowhere on it.
-/
namespace CommitStandard

/-- What the program does with files. -/
structure FileSystem (m : Type → Type) where
  /-- The working directory as an absolute path. -/
  workingDirectory : m Text
  isFile : Text → m Bool
  isDirectory : Text → m Bool
  /-- The names of the directories in a directory, or why the system does not give them. -/
  subdirectories : Text → m (Except Text (List Text))
  /-- The text of a file, if it is encoded as text. -/
  read : Text → m (Option Text)
  write : Text → Text → m Unit
  /-- Adds an entry to a log file, which is made with its directories if it is missing. -/
  appendEntry : Text → Text → m Unit
  /-- The name of a log file for the present time. -/
  timedLogName : m Text

/-- A working directory and what is below it. Directories with something in them need not be
listed. -/
structure Disk where
  workingDirectory : Text
  directories : List (List Text)
  files : List (List Text × Text)

namespace Disk

def hasDirectory (d : Disk) (path : List Text) : Bool :=
  path.isEmpty || (d.directories.any fun p => path.isPrefixOf p) ||
    d.files.any fun f => path.isPrefixOf f.1 && path != f.1

/-- Follows the parts of a path from a directory. A part that goes up leads back to a directory
that is there. -/
def follow (d : Disk) (at_ : List Text) : List Text → Option (List Text)
  | [] => some at_
  | step :: steps =>
    if step = "..".toList then
      if at_.isEmpty || !d.hasDirectory at_ then none else d.follow at_.dropLast steps
    else d.follow (at_ ++ [step]) steps

/-- The parts of a path below the working directory. -/
def stepsBelow? (d : Disk) (path : Text) : Option (List Text) :=
  if FilePath.isAbsolute path then
    if path = d.workingDirectory then some []
    else if (d.workingDirectory ++ ['/']).isPrefixOf path then
      some (FilePath.steps (path.drop d.workingDirectory.length))
    else none
  else some (FilePath.steps path)

/-- The place of a path below the working directory. -/
def locate (d : Disk) (path : Text) : Option (List Text) := (d.stepsBelow? path).bind (d.follow [])

/-- The greatest number of bytes of a name. -/
def nameLimit : Nat := 255

/-- Whether the parts of a path, followed from a directory, come to a name that is too long. -/
def meetsLongName (d : Disk) (at_ : List Text) : List Text → Bool
  | [] => false
  | step :: steps =>
    d.hasDirectory at_ &&
      (nameLimit < (String.ofList step).utf8ByteSize || d.meetsLongName (at_ ++ [step]) steps)

def text? (d : Disk) (path : Text) : Option Text :=
  if FilePath.endsInside path then none else (d.locate path).bind fun p => d.files.lookup p

/-- Whether there is a directory under a written path. The empty path leads nowhere. -/
def isDirectory (d : Disk) (path : Text) : Bool :=
  !path.isEmpty && (d.locate path).any d.hasDirectory

def addName (names : List Text) (name : Text) : List Text :=
  if names.contains name then names else names ++ [name]

/-- The names of the directories in a directory. -/
def names (d : Disk) (path : Text) : List Text :=
  match d.locate path with
  | none => []
  | some here =>
    let names := (d.directories ++ d.files.map fun f => f.1.dropLast).filterMap fun p =>
      if here.isPrefixOf p then (p.drop here.length).head? else none
    names.foldl addName []

/-- The names of the directories in a directory. Nothing can be looked for under a name that is too
long. -/
def subdirectories (d : Disk) (path : Text) : Except Text (List Text) :=
  if (d.stepsBelow? path).any (d.meetsLongName []) then
    .error ("[Errno 36] File name too long: ".toList ++ Text.literal (FilePath.normal path))
  else .ok (d.names path)

def write (d : Disk) (path s : Text) : Disk :=
  match d.locate path with
  | none => d
  | some place =>
    if d.files.any (·.1 == place) then
      { d with files := d.files.map fun f => if f.1 == place then (place, s) else f }
    else { d with files := d.files ++ [(place, s)] }

/-- A disk with directories and files under written paths. -/
def ofPaths (workingDirectory : Text) (directories : List Text) (files : List (Text × Text)) :
    Disk :=
  ⟨workingDirectory, directories.map FilePath.steps,
   files.map fun (path, s) => (FilePath.steps path, s)⟩

/-- The operations on a disk. Log entries carry no time. -/
def fileSystem : FileSystem (StateM Disk) where
  workingDirectory := return (← get).workingDirectory
  isFile path := return ((← get).text? path).isSome
  isDirectory path := return (← get).isDirectory path
  subdirectories path := return (← get).subdirectories path
  read path := return (← get).text? path
  write path s := modify fun d => d.write path s
  appendEntry path s :=
    modify fun d => d.write path ((d.text? path).getD [] ++ s ++ ['\n'])
  timedLogName := return "commitional_log.log".toList

end Disk

end CommitStandard
