import CommitStandard.Toml.Numeral

/-!
# Reading settings files

A settings file is a TOML document: lines of keys and values, tables under headers, arrays of
tables. `Toml.read` gives the document as a table, or the first fault of the text. A key is written
once; a table that was written out, or opened by dotted keys of another table, is not opened again.
-/
namespace CommitStandard.Toml

/-- Skips spaces and tabs. -/
def skipBlanks (s : Text) : Text := s.dropWhile fun c => c = ' ' || c = '\t'

/-- Control characters that may stand nowhere but in escapes; the tab is none of them. -/
def isControl (c : Char) : Bool := (c.toNat < 32 && c != '\t') || c.toNat == 127

/-- Skips a comment up to the end of its line. -/
def skipComment? (s : Text) : Option Text :=
  match s with
  | '#' :: rest =>
    if (rest.takeWhile (· ≠ '\n')).any isControl then none
    else some (rest.dropWhile (· ≠ '\n'))
  | _ => some s

/-- Skips blanks, line ends and comments, as many as the fuel allows. -/
def skipGaps? : Nat → Text → Option Text
  | 0, s => some s
  | fuel + 1, s => do
    let after := s.dropWhile fun c => c = ' ' || c = '\t' || c = '\n'
    match after with
    | '#' :: _ => skipGaps? fuel (← skipComment? after)
    | _ => some after

/-- A character that a key may be written with outside quotation marks. -/
def isBareKeyChar (c : Char) : Bool := Text.asciiAlphanumeric c || c = '-' || c = '_'

/-- The character with a hexadecimal number of so many digits. -/
def takeHexChar? (count : Nat) (s : Text) : Option (Char × Text) :=
  let digits := s.take count
  let n := digitsValue 16 digits
  if digits.length = count ∧ digits.all (isDigitOf 16) ∧ n.isValidChar then
    some (Char.ofNat n, s.drop count)
  else none

/-- Takes what follows a backslash. -/
def takeEscape? : Text → Option (Char × Text)
  | 'b' :: rest => some ('\x08', rest)
  | 't' :: rest => some ('\t', rest)
  | 'n' :: rest => some ('\n', rest)
  | 'f' :: rest => some ('\x0c', rest)
  | 'e' :: rest => some ('\x1b', rest)
  | 'r' :: rest => some ('\r', rest)
  | '"' :: rest => some ('"', rest)
  | '\\' :: rest => some ('\\', rest)
  | 'x' :: rest => takeHexChar? 2 rest
  | 'u' :: rest => takeHexChar? 4 rest
  | 'U' :: rest => takeHexChar? 8 rest
  | _ => none

/-- Skips a line end in a text of several lines that a backslash hides, with all blanks and line
ends after it. -/
def skipHiddenEnd? (s : Text) : Option Text :=
  match skipBlanks s with
  | [] => some []
  | '\n' :: rest => some (rest.dropWhile fun c => c = ' ' || c = '\t' || c = '\n')
  | _ => none

/-- Takes the rest of a quoted text of one line. -/
def takeBasic? : Nat → Text → Option (Text × Text)
  | 0, _ => none
  | fuel + 1, s =>
    match s with
    | [] => none
    | '"' :: rest => some ([], rest)
    | '\\' :: rest => do
      let (c, rest) ← takeEscape? rest
      let (t, left) ← takeBasic? fuel rest
      some (c :: t, left)
    | c :: rest =>
      if isControl c then none
      else do
        let (t, left) ← takeBasic? fuel rest
        some (c :: t, left)

/-- Takes up to two more quotation marks, which belong to a text that ends in five of them. -/
def takeMarks (mark : Char) : Text → Text × Text
  | a :: b :: rest =>
    if a = mark then if b = mark then ([a, b], rest) else ([a], b :: rest) else ([], a :: b :: rest)
  | [a] => if a = mark then ([a], []) else ([], [a])
  | [] => ([], [])

/-- Takes the rest of a quoted text of several lines. -/
def takeLongBasic? : Nat → Text → Option (Text × Text)
  | 0, _ => none
  | fuel + 1, s =>
    match s with
    | [] => none
    | '"' :: '"' :: '"' :: rest => some (takeMarks '"' rest)
    | '\\' :: c :: rest =>
      if c = ' ' ∨ c = '\t' ∨ c = '\n' then do
        takeLongBasic? fuel (← skipHiddenEnd? (c :: rest))
      else do
        let (d, rest) ← takeEscape? (c :: rest)
        let (t, left) ← takeLongBasic? fuel rest
        some (d :: t, left)
    | c :: rest =>
      if c = '\\' || (isControl c && c != '\n') then none
      else do
        let (t, left) ← takeLongBasic? fuel rest
        some (c :: t, left)

/-- Takes the rest of a text between apostrophes. -/
def takeLiteral? (s : Text) : Option (Text × Text) :=
  let inside := s.takeWhile (· ≠ '\x27')
  match s.dropWhile (· ≠ '\x27') with
  | _ :: rest => if inside.any isControl then none else some (inside, rest)
  | [] => none

/-- Takes the rest of a text between triple apostrophes. -/
def takeLongLiteral? (s : Text) : Option (Text × Text) := do
  let (inside, rest) ← Text.cutAt ['\x27', '\x27', '\x27'] s
  if inside.any fun c => isControl c && c != '\n' then none
  else
    let (marks, rest) := takeMarks '\x27' rest
    some (inside ++ marks, rest)

/-- The text without one line feed at its start. -/
def dropLineFeed : Text → Text
  | '\n' :: rest => rest
  | s => s

/-- Takes a text between quotation marks of any kind. -/
def takeString? : Text → Option (Text × Text)
  | '"' :: '"' :: '"' :: rest => takeLongBasic? (rest.length + 1) (dropLineFeed rest)
  | '"' :: rest => takeBasic? (rest.length + 1) rest
  | '\x27' :: '\x27' :: '\x27' :: rest => takeLongLiteral? (dropLineFeed rest)
  | '\x27' :: rest => takeLiteral? rest
  | _ => none

def takeKeyPart? (s : Text) : Option (Text × Text) :=
  match s with
  | '"' :: rest => takeBasic? (rest.length + 1) rest
  | '\x27' :: rest => takeLiteral? rest
  | _ =>
    match s.takeWhile isBareKeyChar with
    | [] => none
    | part => some (part, s.dropWhile isBareKeyChar)

/-- Takes a key of at most so many parts: parts with points between them, and the blanks after
it. -/
def takeKeyWithin : Nat → Text → Reading (List Text × Text)
  | 0, _ => .error (.beyond keyPartExcess)
  | room + 1, s => do
    let (part, rest) ← orMalformed (takeKeyPart? s)
    match skipBlanks rest with
    | '.' :: rest =>
      let (parts, rest) ← takeKeyWithin room (skipBlanks rest)
      return (part :: parts, rest)
    | rest => return ([part], rest)

def takeKey (s : Text) : Reading (List Text × Text) := takeKeyWithin keyPartLimit s

/-- Skips one character. -/
def expect (c : Char) (s : Text) : Reading Text := orMalformed (takeChar? c s)

/-- Skips blanks, line ends and comments. -/
def skipGaps (s : Text) : Reading Text := orMalformed (skipGaps? s.length s)

/-- Changes the table at a path, making the tables on the way that are missing. In documents a
path leads into the last table of an array of tables. -/
def updateAt (intoArrays : Bool) (f : Entries → Option Entries) :
    List Text → Entries → Option Entries
  | [], entries => f entries
  | key :: keys, entries =>
    match Entries.get? key entries with
    | none => (updateAt intoArrays f keys []).map fun e => Entries.put key (.table e) entries
    | some (.table inner) =>
      (updateAt intoArrays f keys inner).map fun e => Entries.put key (.table e) entries
    | some (.list vs) =>
      match intoArrays, vs.getLast? with
      | true, some (.table inner) =>
        (updateAt intoArrays f keys inner).map fun e =>
          Entries.put key (.list (vs.dropLast ++ [.table e])) entries
      | _, _ => none
    | some _ => none

/-- Writes a value under a key that is not there yet. -/
def insertNew (key : Text) (value : Value) (entries : Entries) : Option Entries :=
  if Entries.has key entries then none else some (Entries.put key value entries)

/-- Whether a value was written out as a whole, so that nothing can be added to it. -/
def isClosed : Value → Bool
  | .list _ | .table _ => true
  | _ => false

/-- The last part of a key and the parts before it. -/
def splitKey (key : List Text) : List Text × Text := (key.dropLast, key.getLastD [])

mutual

/-- Takes a value, which may hold arrays and inline tables as deep as there is room. -/
def takeValueFrom : Nat → Nat → Text → Reading (Value × Text)
  | 0, _, _ => .error .malformed
  | fuel + 1, room, s =>
    match s with
    | 't' :: 'r' :: 'u' :: 'e' :: rest => .ok (.bool true, rest)
    | 'f' :: 'a' :: 'l' :: 's' :: 'e' :: rest => .ok (.bool false, rest)
    | '[' :: rest => do
      match ← skipGaps rest with
      | ']' :: left => return (.list [], left)
      | rest =>
        let (vs, left) ← takeItems fuel room rest
        return (.list vs, left)
    | '\x7b' :: rest => do
      match ← skipGaps rest with
      | '\x7d' :: left => return (.table [], left)
      | rest =>
        let (entries, left) ← takeFields fuel room [] [] rest
        return (.table entries, left)
    | c :: _ =>
      if c = '"' ∨ c = '\x27' then do
        let (t, rest) ← orMalformed (takeString? s)
        return (.text t, rest)
      else (takeMoment? s <|> takeNumber? s).getD (.error .malformed)
    | [] => .error .malformed

/-- Takes a value that lies one deeper than the array or inline table around it. -/
def takeInnerFrom : Nat → Nat → Text → Reading (Value × Text)
  | 0, _, _ => .error .malformed
  | _, 0, _ => .error (.beyond nestingExcess)
  | fuel + 1, room + 1, s => takeValueFrom fuel room s

/-- Takes the items of an array from the next one on. -/
def takeItems : Nat → Nat → Text → Reading (List Value × Text)
  | 0, _, _ => .error .malformed
  | fuel + 1, room, s => do
    let (v, rest) ← takeInnerFrom fuel room s
    match ← skipGaps rest with
    | ']' :: left => return ([v], left)
    | ',' :: rest =>
      match ← skipGaps rest with
      | ']' :: left => return ([v], left)
      | rest =>
        let (vs, left) ← takeItems fuel room rest
        return (v :: vs, left)
    | _ => throw .malformed

/-- Takes the fields of an inline table from the next one on. Values that were written out as a
whole are closed to the keys after them. -/
def takeFields : Nat → Nat → Entries → List (List Text) → Text → Reading (Entries × Text)
  | 0, _, _, _, _ => .error .malformed
  | fuel + 1, room, entries, closed, s => do
    let (key, rest) ← takeKey s
    let rest ← expect '=' rest
    let (v, rest) ← takeInnerFrom fuel room (skipBlanks rest)
    if closed.any fun path => path.isPrefixOf key then throw .malformed
    let (parent, stem) := splitKey key
    let entries ← orMalformed (updateAt false (insertNew stem v) parent entries)
    match ← skipGaps rest with
    | '\x7d' :: left => return (entries, left)
    | ',' :: rest =>
      match ← skipGaps rest with
      | '\x7d' :: left => return (entries, left)
      | rest => takeFields fuel room entries (if isClosed v then key :: closed else closed) rest
    | _ => throw .malformed

end

def takeValue (s : Text) : Reading (Value × Text) := takeValueFrom (3 * s.length + 3) nestingLimit s

/-- What has been read of a document. -/
structure Document where
  entries : Entries
  /-- The table that keys belong to. -/
  header : List Text
  /-- Tables that a header must not open again. -/
  opened : List (List Text)
  /-- Values that were written out as a whole. -/
  closed : List (List Text)
  /-- Tables that dotted keys have opened since the last header. -/
  dotted : List (List Text)

namespace Document

/-- Whether nothing can be added under the path. -/
def isClosedAt (d : Document) (path : List Text) : Bool :=
  d.closed.any fun p => p.isPrefixOf path

def openTable (d : Document) (key : List Text) : Option Document :=
  let opened := d.dotted ++ d.opened
  if opened.contains key || d.isClosedAt key then none
  else do
    let entries ← updateAt true some key d.entries
    some { d with entries, header := key, opened := key :: opened, dotted := [] }

/-- Adds a table to an array, or begins one. -/
def growArray (stem : Text) (entries : Entries) : Option Entries :=
  match Entries.get? stem entries with
  | none => some (Entries.put stem (.list [.table []]) entries)
  | some (.list vs) => some (Entries.put stem (.list (vs ++ [.table []])) entries)
  | some _ => none

/-- Opens the next table of an array by its header. What was opened or closed below the array
belonged to the table before. -/
def openItem (d : Document) (key : List Text) : Option Document :=
  if d.isClosedAt key then none
  else do
    let below := fun p : List Text => key.isPrefixOf p
    let (parent, stem) := splitKey key
    let entries ← updateAt true (growArray stem) parent d.entries
    some
      { d with
        entries
        header := key
        opened := key :: (d.dotted ++ d.opened).filter (fun p => !below p)
        closed := d.closed.filter (fun p => !below p)
        dotted := [] }

/-- The proper beginnings of a key that are not empty, under a header. -/
def beginnings (header key : List Text) : List (List Text) :=
  (List.range' 1 (key.length - 1)).map fun n => header ++ key.take n

/-- Writes a value under a key of the present table. -/
def write (d : Document) (key : List Text) (v : Value) : Option Document :=
  let tables := beginnings d.header key
  let (parent, stem) := splitKey key
  if tables.any d.opened.contains || d.isClosedAt (d.header ++ parent) then none
  else do
    let entries ← updateAt true (insertNew stem v) (d.header ++ parent) d.entries
    some
      { d with
        entries
        closed := if isClosed v then (d.header ++ key) :: d.closed else d.closed
        dotted := tables ++ d.dotted }

/-- Reads one statement, if there is one on the line. -/
def readStatement (d : Document) (s : Text) : Reading (Document × Text) :=
  match s with
  | '[' :: '[' :: rest => do
    let (key, rest) ← takeKey (skipBlanks rest)
    let rest ← expect ']' (← expect ']' rest)
    return (← orMalformed (d.openItem key), rest)
  | '[' :: rest => do
    let (key, rest) ← takeKey (skipBlanks rest)
    let rest ← expect ']' rest
    return (← orMalformed (d.openTable key), rest)
  | c :: _ =>
    if isBareKeyChar c || c = '"' || c = '\x27' then do
      let (key, rest) ← takeKey s
      let rest ← expect '=' rest
      let (v, rest) ← takeValue (skipBlanks rest)
      return (← orMalformed (d.write key v), rest)
    else .ok (d, s)
  | [] => .ok (d, s)

def readLines : Nat → Document → Text → Reading Document
  | 0, _, _ => .error .malformed
  | fuel + 1, d, s => do
    let (d, rest) ← d.readStatement (skipBlanks s)
    match ← orMalformed (skipComment? (skipBlanks rest)) with
    | [] => return d
    | '\n' :: rest => readLines fuel d rest
    | _ => throw .malformed

end Document

def read (s : Text) : Reading Entries :=
  let s := Text.unixLines s
  (Document.readLines (s.length + 1) ⟨[], [], [], [], []⟩ s).map Document.entries

end CommitStandard.Toml
