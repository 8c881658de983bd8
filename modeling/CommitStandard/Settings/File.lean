import CommitStandard.Platform
import CommitStandard.Settings.Basic

/-!
# The settings file

Settings are kept in a document, in the table of their section. `Settings.ofBytes` loads the
content of a file and `Settings.save` writes one, both in the format of the platform. A document
that cannot be read, or whose values have the wrong sorts, yields the default settings and a
notice; a file that is no text, a document beyond the limits of reading, and a section that is not
a table, are faults.
-/
namespace CommitStandard

structure Loaded where
  settings : Settings
  notices : List Notice

/-- Why a settings file cannot be loaded. -/
inductive LoadFault where
  /-- The content is not encoded as text. -/
  | notText
  /-- The document goes beyond a limit of reading. -/
  | beyond (e : Excess)
  /-- The section holds a value that cannot be seen as a table. -/
  | section (v : Value)
  /-- An item of the section, seen as a list of pairs, is no sequence. -/
  | notPair (index : Nat)
  /-- An item of the section, seen as a list of pairs, has another length. -/
  | pairLength (index length : Nat)
  /-- A list or a table stands in the place of a key. -/
  | unusableKey (v : Value)
  /-- The log file is of a sort in which nothing can be looked for. -/
  | notSearchable (v : Value)
  /-- The log file is of a sort that has no beginning. -/
  | noBeginning (v : Value)
  /-- A log file that is not followed cannot be shown. -/
  | unshown (e : DisplayFault)
  /-- A key of the section is no text. -/
  | key
  /-- A key of the section is the name that stands for the settings themselves. -/
  | reservedKey

namespace LoadFault

/-- The name of the sort of a value. -/
def sortName : Value → Text
  | .null => "NoneType".toList
  | .bool _ => "bool".toList
  | .int _ => "int".toList
  | .float _ => "float".toList
  | .text _ => "str".toList
  | .moment m => m.sortName
  | .list _ => "list".toList
  | .table _ => "dict".toList

def message : LoadFault → Text
  | notText => "'utf-8' codec can't decode the file".toList
  | beyond e => e.message
  | .section v => '\x27' :: (sortName v ++ "' object is not iterable".toList)
  | notPair index =>
    "cannot convert dictionary update sequence element #".toList ++ Text.ofNat index ++
      " to a sequence".toList
  | pairLength index length =>
    "dictionary update sequence element #".toList ++ Text.ofNat index ++ " has length ".toList ++
      Text.ofNat length ++ "; 2 is required".toList
  | unusableKey v => "unhashable type: '".toList ++ sortName v ++ ['\x27']
  | notSearchable v => "argument of type '".toList ++ sortName v ++ "' is not iterable".toList
  | noBeginning v => '\x27' :: (sortName v ++ "' object has no attribute 'startswith'".toList)
  | unshown e => e.message
  | key => "keywords must be strings".toList
  | reservedKey => "Config.__init__() got multiple values for argument 'self'".toList

end LoadFault

namespace Settings

/-- The parts of a value: the items of a list, the characters of a text, the keys of a table. -/
def parts? : Value → Option (List Value)
  | .list items => some items
  | .text s => some (s.map fun c => .text [c])
  | .table entries => some ((Entries.keys entries).map .text)
  | _ => none

/-- What a section holds. -/
structure SectionContent where
  /-- The values under keys that are texts. -/
  entries : Entries
  /-- Whether there are keys that are no texts. -/
  hasOtherKeys : Bool

/-- Adds a value under a key. Of two values under the same key, the later one counts. -/
def SectionContent.put (content : SectionContent) (key value : Value) :
    Except LoadFault SectionContent :=
  match key with
  | .text key => .ok { content with entries := Entries.put key value content.entries }
  | .list _ | .table _ => .error (.unusableKey key)
  | _ => .ok { content with hasOtherKeys := true }

/-- Reads pairs of a key and a value, starting to count at the given index. -/
def ofPairs (index : Nat) (content : SectionContent) :
    List Value → Except LoadFault SectionContent
  | [] => .ok content
  | item :: rest =>
    match parts? item with
    | none => .error (.notPair index)
    | some [k, v] => do ofPairs (index + 1) (← content.put k v) rest
    | some ps => .error (.pairLength index ps.length)

/-- What a section holds: a table, or pairs in a list. -/
def ofSection : Value → Except LoadFault SectionContent
  | .table entries => .ok ⟨entries, false⟩
  | v =>
    match parts? v with
    | some items => ofPairs 0 ⟨[], false⟩ items
    | none => .error (.section v)

/-- Sanitizes the text under a key. -/
def sanitizeAt (field : Field) (entries : Entries) : Entries :=
  match Entries.get? field.name entries with
  | some (.text s) => Entries.put field.name (.text (sanitize s)) entries
  | _ => entries

/-- Drops the log file, with a notice that shows its value. -/
def dropLogFile (room : Nat) (entries : Entries) (v : Value) :
    Except LoadFault (Entries × List Notice) := do
  let shown ← (v.display room).mapError .unshown
  return (Entries.put Field.logFile.name .null entries, [.unsafeLogFile shown])

def checkLogFile (room : Nat) (entries : Entries) : Except LoadFault (Entries × List Notice) :=
  match Entries.get? Field.logFile.name entries with
  | none => .ok (entries, [])
  | some v =>
    if v.isGiven then
      match v with
      | .text path => if isSafePath path then .ok (entries, []) else dropLogFile room entries v
      | .list items =>
        if items.any fun i => i.text? == some "..".toList then dropLogFile room entries v
        else .error (.noBeginning v)
      | .table fields =>
        if Entries.has "..".toList fields then dropLogFile room entries v
        else .error (.noBeginning v)
      | _ => .error (.notSearchable v)
    else .ok (entries, [])

/-- Drops rules that are not given, which means the default ones. -/
def dropEmptyRules (entries : Entries) : Entries :=
  match Entries.get? Field.rules.name entries with
  | some v => if v.isGiven then entries else Entries.erase Field.rules.name entries
  | none => entries

def ofTable (p : Platform) (env : Environment) (document : Entries) :
    Except LoadFault Loaded := do
  let content ← ofSection ((Entries.get? settingsSection document).getD (.table []))
  let entries :=
    sanitizeAt .logFile (sanitizeAt .breakingEmoji (sanitizeAt .scopeDelimiter content.entries))
  let (entries, notices) ← checkLogFile p.displayDepth entries
  if content.hasOtherKeys then throw .key
  match ofFields p.coercions env (dropEmptyRules entries) with
  | .ok settings => return ⟨settings, notices⟩
  | .error .reservedName => throw .reservedKey
  | .error .wrongSort =>
    return ⟨ofEnvironment p.coercions env,
      notices ++ [.unreadable "a setting has a value of the wrong sort".toList]⟩

def ofDocument (p : Platform) (env : Environment) (s : Text) : Except LoadFault Loaded :=
  match p.format.read s with
  | .ok document => ofTable p env document
  | .error .malformed =>
    .ok ⟨ofEnvironment p.coercions env,
      [.unreadable "the document is not well formed".toList]⟩
  | .error (.beyond e) => .error (.beyond e)

def ofBytes (p : Platform) (env : Environment) (content : ByteArray) : Except LoadFault Loaded :=
  match String.fromUTF8? content with
  | some s => ofDocument p env s.toList
  | none => .error .notText

/-- What saving settings yields: the document, unless a value cannot be written, and notices. -/
structure Saved where
  document : Option Text
  notices : List Notice

/-- The fields of settings as a table. An absent log file, and one that is not safe, are left
out. -/
def toTable (s : Settings) : Entries :=
  [(Field.rules.name, .table s.rules),
   (Field.enableMultipleScopes.name, .bool s.enableMultipleScopes),
   (Field.scopeDelimiter.name, .text s.scopeDelimiter),
   (Field.breakingEmoji.name, .text s.breakingEmoji),
   (Field.alwaysLog.name, .bool s.alwaysLog)] ++
  match s.logFile with
  | some path => if isSafePath path then [(Field.logFile.name, .text path)] else []
  | none => []

/-- Writes settings as a document, unless their values lie too deep for that. A value that
documents cannot hold is noticed. -/
def save? (p : Platform) (s : Settings) : Option Saved :=
  let notices := match s.logFile with
    | some path => if isSafePath path then [] else [Notice.unsafeUnsaved path]
    | none => []
  match p.format.write [(settingsSection, .table s.toTable)] with
  | .ok document => some ⟨some document, notices⟩
  | .error (.refused reason) => some ⟨none, notices ++ [.unsavable reason]⟩
  | .error .tooDeep => none

end Settings

end CommitStandard
