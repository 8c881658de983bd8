import CommitStandard.Namespace

/-!
# Paths on the command line

Paths are written with slashes. The normal form has no empty parts, no parts that stay where they
are, and a dot for the empty path; parts that go up are kept.
-/
namespace CommitStandard.FilePath

/-- The parts of a path that lead somewhere. -/
def steps (path : Text) : List Text :=
  (Text.pieces '/' path).filter fun p => !p.isEmpty && p != ['.']

def isAbsolute (path : Text) : Bool := ['/'].isPrefixOf path

/-- The slashes that a normal path starts with: two are kept, all other numbers become one. -/
def rootMark (path : Text) : Text :=
  match (path.takeWhile (· = '/')).length with
  | 0 => []
  | 2 => ['/', '/']
  | _ => ['/']

def normal (path : Text) : Text :=
  match rootMark path ++ Text.join ['/'] (steps path) with
  | [] => ['.']
  | p => p

/-- Whether a path can only be that of a directory: its last part leads nowhere else. -/
def endsInside (path : Text) : Bool :=
  (Text.pieces '/' path).getLast?.any fun p => p.isEmpty || p = ['.']

/-- The directory in which a normal path lies. -/
def directoryOf (path : Text) : Text :=
  normal (rootMark path ++ Text.join ['/'] (steps path).dropLast)

/-- The directories on the way to a normal path, without the path itself. -/
def ancestors (path : Text) : List Text :=
  (List.range (steps path).length).map fun n =>
    normal (rootMark path ++ Text.join ['/'] ((steps path).take n))

def inside (directory path : Text) : Text :=
  if directory.isEmpty || directory = ['.'] then path
  else if ['/'].isSuffixOf directory then directory ++ path
  else directory ++ '/' :: path

/-- A path as seen from a directory: an absolute one leads away from it. -/
def seenFrom (directory path : Text) : Text :=
  if isAbsolute path then path else inside directory path

/-- Follows parts, where a part that goes up takes back the one before it. -/
def climb (back : List Text) : List Text → List Text
  | [] => back.reverse
  | step :: rest =>
    if step = "..".toList then climb (back.drop 1) rest else climb (step :: back) rest

/-- An absolute path without parts that go up. -/
def collapsed (path : Text) : Text := rootMark path ++ Text.join ['/'] (climb [] (steps path))

/-- The path as seen from the root of the file system, given the working directory. -/
def absolute (workingDirectory path : Text) : Text :=
  let p := normal path
  if isAbsolute p then p
  else if p = ['.'] then workingDirectory
  else inside workingDirectory p

end CommitStandard.FilePath
