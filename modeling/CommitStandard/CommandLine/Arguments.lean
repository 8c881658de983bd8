import CommitStandard.CommandLine.Path
import CommitStandard.Text.Literal

/-!
# Arguments of the command line

What the commands are, which switches they know, and how their arguments are read. Switches and
operands may stand in any order; `--` ends the switches. The main definition is
`Arguments.read`. For a mistyped name, `Text.suggestions` finds the names that it may stand for by
how much two texts share: the first of the longest blocks that occur in both, and what they share
to the left and to the right of it. A text shares all of itself with itself (`commonStart_self`).
-/
namespace CommitStandard

namespace Text

/-- With how many equal characters two texts begin. -/
def commonStart : Text → Text → Nat
  | a :: s, b :: t => if a = b then commonStart s t + 1 else 0
  | _, _ => 0

@[simp] theorem commonStart_self (s : Text) : commonStart s s = s.length := by
  induction s with
  | nil => rfl
  | cons a s ih => simp [commonStart, ih]

/-- A block that occurs in two texts: where it begins in each, and how long it is. -/
structure Block where
  left : Nat
  right : Nat
  size : Nat
deriving DecidableEq, Repr

/-- The first of the longest blocks: the one that begins first in the left text, and then in the
right one. -/
def longestBlock (s t : Text) : Block :=
  let blocks := (List.range s.length).flatMap fun i =>
    (List.range t.length).map fun j => (⟨i, j, commonStart (s.drop i) (t.drop j)⟩ : Block)
  blocks.foldl (fun best b => if best.size < b.size then b else best) ⟨0, 0, 0⟩

/-- How many characters two texts share in at most so many nested blocks. -/
def sharedWithin : Nat → Text → Text → Nat
  | 0, _, _ => 0
  | fuel + 1, s, t =>
    let b := longestBlock s t
    if b.size = 0 then 0
    else
      sharedWithin fuel (s.take b.left) (t.take b.right) + b.size +
        sharedWithin fuel (s.drop (b.left + b.size)) (t.drop (b.right + b.size))

def shared (s t : Text) : Nat := sharedWithin s.length s t

/-- Whether three fifths or more of the characters of two texts are shared. -/
def isSimilar (s t : Text) : Bool := 3 * (s.length + t.length) ≤ 10 * shared s t

/-- Whether a name is at least as similar to a word as another one. Of two that are as similar, the
one that comes later by code points counts as more so. -/
def isCloser (word a b : Text) : Bool :=
  let left := shared a word * (b.length + word.length)
  let right := shared b word * (a.length + word.length)
  right < left || (left = right && le b a)

def suggestionLimit : Nat := 3

/-- The names most similar to a word, in increasing order. -/
def suggestions (names : List Text) (word : Text) : List Text :=
  (((names.filter fun n => isSimilar n word).mergeSort (isCloser word)).take
    suggestionLimit).mergeSort le

end Text

inductive Switch where
  | path
  | fix
  | logFile
  | noContext
  | raw
  | list
  | init
  | version
  | help
deriving DecidableEq, Repr

namespace Switch

def shortName? : Switch → Option Char
  | path => some 'p'
  | logFile => some 'l'
  | _ => none

def longName : Switch → Text
  | path => "--path".toList
  | fix => "--fix".toList
  | logFile => "--log-file".toList
  | noContext => "--no-context".toList
  | raw => "--raw".toList
  | list => "--list".toList
  | init => "--init".toList
  | version => "--version".toList
  | help => "--help".toList

def takesValue : Switch → Bool
  | path | logFile => true
  | _ => false

/-- The quoted names. -/
def title (s : Switch) : Text :=
  let short := (s.shortName?.map fun c => Text.literal ['-', c]).toList
  Text.join " / ".toList (short ++ [Text.literal s.longName])

end Switch

inductive Command where
  | lint
  | describe
  | config
deriving DecidableEq, Repr

namespace Command

def name : Command → Text
  | lint => "lint".toList
  | describe => "describe".toList
  | config => "config".toList

def all : List Command := [lint, describe, config]

def ofName? (s : Text) : Option Command := all.find? fun c => c.name = s

def switches : Command → List Switch
  | lint => [.path, .fix, .logFile, .noContext, .help]
  | describe => [.path, .raw, .help]
  | config => [.path, .list, .init, .help]

def operandLimit : Command → Nat
  | lint => 1
  | _ => 0

end Command

/-- Where on the command line arguments are read: for the program itself or for a command. -/
inductive Scene where
  | program
  | command (c : Command)
deriving DecidableEq, Repr

namespace Scene

/-- The words that lead there. -/
def words : Scene → Text
  | program => "main".toList
  | command c => "main ".toList ++ c.name

def usage : Scene → Text
  | program => "main [OPTIONS] [COMMAND] [ARGS]...".toList
  | command c =>
    (command c).words ++ " [OPTIONS]".toList ++
      if c.operandLimit = 0 then [] else " [TARGET]".toList

def switches : Scene → List Switch
  | program => [.version, .help]
  | command c => c.switches

end Scene

inductive UsageFault where
  /-- A switch that is not known, and those that may be meant. -/
  | noSuchSwitch (name : Text) (similar : List Text)
  | valueMissing (name : Text)
  | valueUnwanted (name : Text)
  | extraOperands (operands : List Text)
  /-- A command that is not known, and those that may be meant. -/
  | noSuchCommand (name : Text) (similar : List Text)
  /-- A value that names something else than it should. -/
  | badValue (s : Switch) (reason : Text)
deriving DecidableEq, Repr

namespace UsageFault

/-- A question after names that may be meant. -/
def question : List Text → Text
  | [] => []
  | [name] => " Did you mean ".toList ++ Text.literal name ++ ['?']
  | names =>
    " (Did you mean one of: ".toList ++ Text.join ", ".toList (names.map Text.literal) ++
      "?)".toList

def message : UsageFault → Text
  | noSuchSwitch name similar =>
    "No such option ".toList ++ Text.literal name ++ '.' :: question similar
  | valueMissing name =>
    "Option ".toList ++ Text.literal name ++ " requires an argument.".toList
  | valueUnwanted name =>
    "Option ".toList ++ Text.literal name ++ " does not take a value.".toList
  | extraOperands operands =>
    "Got unexpected extra argument".toList ++ (if operands.length = 1 then [] else ['s']) ++
      " (".toList ++ Text.join [' '] operands ++ [')']
  | noSuchCommand name similar =>
    "No such command ".toList ++ Text.literal name ++ '.' :: question similar
  | badValue s reason => "Invalid value for ".toList ++ s.title ++ ": ".toList ++ reason

/-- Whether the usage is shown with the fault. It is not when only a value is missing or too
many. -/
def showsUsage : UsageFault → Bool
  | valueMissing _ | valueUnwanted _ => false
  | _ => true

end UsageFault

structure Arguments where
  /-- The switches in the order given, with their values; those without have an empty one. -/
  switches : List (Switch × Text)
  operands : List Text
deriving DecidableEq, Repr

namespace Arguments

def has (a : Arguments) (s : Switch) : Bool := a.switches.any (·.1 == s)

/-- The value given last to a switch. -/
def value? (a : Arguments) (s : Switch) : Option Text := a.switches.reverse.lookup s

/-- The given switches without repetitions. -/
def distinct (a : Arguments) : List Switch :=
  a.switches.foldl (fun ss s => if ss.contains s.1 then ss else ss ++ [s.1]) []

def consAll (ss : List (Switch × Text)) (a : Arguments) : Arguments :=
  { a with switches := ss ++ a.switches }

def consOperand (s : Text) (a : Arguments) : Arguments := { a with operands := s :: a.operands }

/-- What one argument says: switches, and perhaps one more whose value is the next argument. -/
structure Reading where
  complete : List (Switch × Text)
  pending : Option (Switch × Text)

/-- Reads a long name, perhaps with a value after an equals sign. -/
def readLong (known : List Switch) (arg : Text) : Except UsageFault Reading :=
  let name := arg.takeWhile (· ≠ '=')
  match known.find? fun s => s.longName = name with
  | none => .error (.noSuchSwitch name (Text.suggestions (known.map Switch.longName) name))
  | some s =>
    match arg.dropWhile (· ≠ '=') with
    | _ :: value =>
      if s.takesValue then .ok ⟨[(s, value)], none⟩ else .error (.valueUnwanted name)
    | [] => if s.takesValue then .ok ⟨[], some (s, name)⟩ else .ok ⟨[(s, [])], none⟩

/-- Reads a run of short names; the rest after the name of a switch with a value is its value. -/
def readShort (known : List Switch) : Text → Except UsageFault Reading
  | [] => .ok ⟨[], none⟩
  | c :: rest =>
    match known.find? fun s => s.shortName? = some c with
    | none => .error (.noSuchSwitch ['-', c] [])
    | some s =>
      if s.takesValue then
        if rest.isEmpty then .ok ⟨[], some (s, ['-', c])⟩ else .ok ⟨[(s, rest)], none⟩
      else do
        let r ← readShort known rest
        return { r with complete := (s, []) :: r.complete }

def readSwitch (known : List Switch) (arg : Text) : Except UsageFault Reading :=
  if ['-', '-'].isPrefixOf arg then readLong known arg else readShort known (arg.drop 1)

def namesSwitch : Text → Bool
  | '-' :: _ :: _ => true
  | _ => false

/-- Reads arguments. If operands end the switches, all that follows the first one is an operand
too. -/
def readFrom (known : List Switch) (operandsEnd : Bool) : List Text → Except UsageFault Arguments
  | [] => .ok ⟨[], []⟩
  | arg :: rest =>
    if arg = ['-', '-'] then .ok ⟨[], rest⟩
    else if namesSwitch arg then
      match readSwitch known arg with
      | .error e => .error e
      | .ok r =>
        match r.pending, rest with
        | none, rest => (readFrom known operandsEnd rest).map (consAll r.complete)
        | some (_, name), [] => .error (.valueMissing name)
        | some (s, _), value :: rest =>
          (readFrom known operandsEnd rest).map (consAll (r.complete ++ [(s, value)]))
    else if operandsEnd then .ok ⟨[], arg :: rest⟩
    else (readFrom known operandsEnd rest).map (consOperand arg)

/-- Reads the arguments of the program or of a command. The first operand of the program is the
command, to which all further arguments belong. -/
def read (scene : Scene) (args : List Text) : Except UsageFault Arguments :=
  readFrom scene.switches (scene = .program) args

end Arguments

end CommitStandard
