import CommitStandard.Text.Character

/-!
# Namespaces of changed files

A namespace is an application or package that a file belongs to. Directory patterns declare
namespaces: `apps/*` makes every directory directly inside `apps` one, and `libs/shared` is one
by itself, named after the directory. The first pattern that applies to a file decides. The main
definitions are `Resolver.namespaceOf?` for one file and `Resolver.checkAlignment` for a set of
files and the namespace that a message declares. The files come from the differences between two
states of a repository (`FileChange.paths`).
-/
namespace CommitStandard

/-- A declared directory. -/
structure DirectoryPattern where
  directory : Text
  /-- Whether the directories inside are the namespaces, not the directory itself. -/
  wildcard : Bool
deriving DecidableEq, Repr

/-- The outcome of checking namespaces. -/
structure NamespaceCheck where
  valid : Bool
  namespaces : List Text
  errors : List Text
deriving DecidableEq, Repr

/-- The declared directories, in order of declaration. -/
structure Resolver where
  patterns : List DirectoryPattern
deriving DecidableEq, Repr

namespace FilePath

def withSlashes (path : Text) : Text := path.map fun c => if c = '\\' then '/' else c

/-- What follows the last slash. -/
def baseName (path : Text) : Text := (path.reverse.takeWhile (· ≠ '/')).reverse

/-- What precedes the last slash, without slashes at its end unless it has nothing else. -/
def parent (path : Text) : Text :=
  let head := (path.reverse.dropWhile (· ≠ '/')).reverse
  if head.all (· = '/') then head else Text.dropEnd (· = '/') head

end FilePath

namespace DirectoryPattern

/-- Reads a pattern: a final `/*` makes it a wildcard. -/
def read (pattern : Text) : DirectoryPattern :=
  let path := FilePath.withSlashes pattern
  match path.reverse with
  | '*' :: '/' :: rest => ⟨Text.dropEnd (· = '/') rest.reverse, true⟩
  | _ => ⟨Text.dropEnd (· = '/') path, false⟩

/-- The written form of a pattern. -/
def render (p : DirectoryPattern) : Text :=
  if p.wildcard then p.directory ++ ['/', '*'] else p.directory

/-- The namespace that the pattern gives to a path, if it applies. A file directly inside a
wildcard directory has none. -/
def namespaceOf? (p : DirectoryPattern) (path : Text) : Option Text :=
  if (p.directory ++ ['/']).isPrefixOf path then
    if p.wildcard then
      let inside := path.drop (p.directory.length + 1)
      if '/' ∈ inside then some (inside.takeWhile (· ≠ '/')) else none
    else some (FilePath.baseName p.directory)
  else none

end DirectoryPattern

namespace Resolver

def ofPatterns (patterns : List Text) : Resolver := ⟨patterns.map DirectoryPattern.read⟩

def written (r : Resolver) : List Text := r.patterns.map DirectoryPattern.render

/-- The namespace of a file; files at the top and files outside every pattern have none. -/
def namespaceOf? (r : Resolver) (file : Text) : Option Text :=
  let path := FilePath.withSlashes file
  if '/' ∈ path then r.patterns.findSome? (·.namespaceOf? path) else none

def addNew (items : List Text) (item : Text) : List Text :=
  if item ∈ items then items else items ++ [item]

/-- The distinct namespaces of the files, in the order in which they first occur. -/
def namespacesOf (r : Resolver) (files : List Text) : List Text :=
  (files.filterMap r.namespaceOf?).foldl addNew []

/-- Checks that the files touch one namespace at most. -/
def checkSingle (r : Resolver) (files : List Text) : NamespaceCheck :=
  let namespaces := r.namespacesOf files
  if 1 < namespaces.length then
    ⟨false, namespaces,
      ["Commit spans multiple namespaces: ".toList ++ Text.join ", ".toList namespaces]⟩
  else ⟨true, namespaces, []⟩

/-- The folder of the first file in a namespace. -/
def folderOf (r : Resolver) (files : List Text) (name : Text) : Text :=
  match files.find? fun file => r.namespaceOf? file == some name with
  | some file => FilePath.parent (FilePath.withSlashes file)
  | none => name

/-- Checks the declared namespace against the namespaces of the files. -/
def checkAlignment (r : Resolver) (declared : Text) (files : List Text) : NamespaceCheck :=
  match r.namespacesOf files with
  | [] =>
    if declared.isEmpty then ⟨true, [], []⟩
    else ⟨false, [], ["Files not apart of namespace \"".toList ++ declared ++ ['"']]⟩
  | [required] =>
    let demand := "Files in ".toList ++ r.folderOf files required ++
      " require namespace \"".toList ++ required ++ ['"']
    if declared.isEmpty then ⟨false, [required], [demand]⟩
    else if declared ≠ required then
      ⟨false, [required], [demand ++ ", got \"".toList ++ declared ++ ['"']]⟩
    else ⟨true, [required], []⟩
  | _ => r.checkSingle files

/-- The names of the patterns that are namespaces by themselves. -/
def available (r : Resolver) : List Text :=
  ((r.patterns.filter fun p => !p.wildcard).map fun p => FilePath.baseName p.directory).foldl
    addNew []

end Resolver

/-- A file before and after a change; on one side there may be none. -/
structure FileChange where
  before : Option Text
  after : Option Text
deriving DecidableEq, Repr

namespace FileChange

/-- A path that names something. -/
def given? : Option Text → Option Text
  | some (c :: cs) => some (c :: cs)
  | _ => none

/-- The path of a changed file: the new one, or the old one of a removed file. -/
def path? (c : FileChange) : Option Text := (given? c.after).or (given? c.before)

/-- The distinct paths of changes, in the order in which they first occur. -/
def paths (changes : List FileChange) : List Text :=
  (changes.filterMap path?).foldl Resolver.addNew []

end FileChange

end CommitStandard
