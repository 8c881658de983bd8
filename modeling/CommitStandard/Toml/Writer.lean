import CommitStandard.Toml.Reader

/-!
# Writing settings files

A table is written as a TOML document: first the plain values of a table, then the tables inside
it under headers of their own. Arrays have one item a line. An array of tables is written under
headers, unless each of its tables is short enough for one line. `Toml.write` gives nothing if the
table holds the absent value, which documents cannot, or a number with too many digits.
`Toml.format` is the format as a whole, and `Platform.standard` what settings rest on with it.
-/
namespace CommitStandard

namespace Toml

/-- The greatest number of characters of a table on one line. -/
def maxInlineLength : Nat := 100

/-- The spaces in front of what is nested once. -/
def indent : Text := List.replicate 4 ' '

/-- A character inside quotation marks. -/
def quoteChar (c : Char) : Text :=
  if c = '"' || c = '\\' then ['\\', c]
  else if c = '\x08' then ['\\', 'b']
  else if c = '\n' then ['\\', 'n']
  else if c = '\x0c' then ['\\', 'f']
  else if c = '\r' then ['\\', 'r']
  else if (c.toNat < 32 && c != '\t') || c.toNat == 127 then '\\' :: 'u' :: Text.hex 4 c.toNat
  else [c]

/-- A text between quotation marks. -/
def quote (s : Text) : Text := '"' :: (s.flatMap quoteChar ++ ['"'])

/-- A key, without quotation marks where it can be. -/
def writeKey (key : Text) : Text :=
  if !key.isEmpty && key.all (fun c => Text.asciiAlphanumeric c || c = '-' || c = '_') then key
  else quote key

def assignment (key value : Text) : Text := writeKey key ++ " = ".toList ++ value

mutual

/-- A value after an equals sign or inside an array, nested as deep as given. -/
def inline? (depth : Nat) : Value → Option Text
  | .null => none
  | .bool b => some (if b then "true".toList else "false".toList)
  | .int n => (Text.ofInt n).toOption
  | .float x => some x.render
  | .text s => some (quote s)
  | .moment m => some m.render
  | .list [] => some "[]".toList
  | .list (v :: vs) => do
    let first ← inline? (depth + 1) v
    let others ← inlineItems? (depth + 1) vs
    let pad := (List.replicate depth indent).flatten
    let lines := (first :: others).map fun t => pad ++ indent ++ t ++ ",\n".toList
    some ("[\n".toList ++ lines.flatten ++ pad ++ [']'])
  | .table [] => some "\x7b\x7d".toList
  | .table (e :: es) => do
    let fields ← inlineFields? (e :: es)
    some ("\x7b ".toList ++ Text.join ", ".toList fields ++ " \x7d".toList)

def inlineItems? (depth : Nat) : List Value → Option (List Text)
  | [] => some []
  | v :: vs => do
    let t ← inline? depth v
    let ts ← inlineItems? depth vs
    some (t :: ts)

/-- The fields of a table on one line. -/
def inlineFields? : List (Text × Value) → Option (List Text)
  | [] => some []
  | (k, v) :: es => do
    let t ← inline? 0 v
    let ts ← inlineFields? es
    some (assignment k t :: ts)

end

def isTable : Value → Bool
  | .table _ => true
  | _ => false

/-- Whether a table fits on one line of an array. -/
def isShort (v : Value) : Bool :=
  match inline? 0 v with
  | some t => t.length + indent.length + 1 ≤ maxInlineLength && '\n' ∉ t
  | none => true

/-- Whether a value is written under headers of its own. -/
def needsHeader : Value → Bool
  | .table _ => true
  | .list vs => !vs.isEmpty && vs.all isTable && !vs.all isShort
  | _ => false

/-- The name of a table inside another one. -/
def subName (name key : Text) : Text :=
  if name.isEmpty then writeKey key else name ++ '.' :: writeKey key

/-- The lines of the plain values of a table. -/
def plainLines? (entries : Entries) : Option Text := do
  let lines ← (entries.filter fun e => !needsHeader e.2).mapM fun (k, v) => do
    some (assignment k (← inline? 0 v) ++ ['\n'])
  some lines.flatten

/-- The header and the plain values of a table. A table that has nothing but tables in it needs no
header, nor does the document itself. -/
def head? (name : Text) (inArray : Bool) (entries : Entries) : Option Text := do
  let lines ← plainLines? entries
  let header :=
    if inArray then "[[".toList ++ name ++ "]]\n".toList
    else if !name.isEmpty && (!lines.isEmpty || !entries.any fun e => needsHeader e.2) then
      '[' :: (name ++ "]\n".toList)
    else []
  some (header ++ lines)

/-- Puts the tables inside a table after its head, with blank lines between them. -/
def assemble (head : Text) (sections : List Text) : Text :=
  Text.join ['\n'] (if head.isEmpty then sections else head :: sections)

mutual

/-- The tables inside a table. -/
def sections? (name : Text) : List (Text × Value) → Option (List Text)
  | [] => some []
  | (k, v) :: es => do
    let here ← sectionsOf? (subName name k) v
    let rest ← sections? name es
    some (here ++ rest)

/-- The sections that a value needs. -/
def sectionsOf? (name : Text) : Value → Option (List Text)
  | .table es => do
    let head ← head? name false es
    let inner ← sections? name es
    some [assemble head inner]
  | .list vs =>
    if needsHeader (.list vs) then itemSections? name vs else some []
  | _ => some []

/-- The sections of the tables of an array. -/
def itemSections? (name : Text) : List Value → Option (List Text)
  | [] => some []
  | .table es :: vs => do
    let head ← head? name true es
    let inner ← sections? name es
    let rest ← itemSections? name vs
    some (assemble head inner :: rest)
  | _ :: vs => itemSections? name vs

end

/-- Writes a document. -/
def write (entries : Entries) : Option Text := do
  some (assemble (← head? [] false entries) (← sections? [] entries))

mutual

/-- How many lists and tables lie inside each other in the part of a value that is written without
headers. -/
def lineDepth : Value → Nat
  | .table entries => entryLineDepth entries
  | v => v.depth

/-- The greatest depth without headers of the value of an entry. -/
def entryLineDepth : List (Text × Value) → Nat
  | [] => 0
  | (_, v) :: es => max (lineDepth v) (entryLineDepth es)

end

/-- How deep what is written without headers may be. -/
def writingLimit : Nat := 328

def format : DocumentFormat where
  read := read
  write entries :=
    if entryLineDepth entries ≤ writingLimit then
      match write entries with
      | some s => .ok s
      | none => .error (.refused "a value cannot be written".toList)
    else .error .tooDeep

end Toml

/-- What settings rest on where nothing else is said: TOML documents, and generous coercions. -/
def Platform.standard : Platform := ⟨.lax, Toml.format, 495, 970⟩

end CommitStandard
