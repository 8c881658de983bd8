import CommitStandard.Rule.Vocabulary

/-!
# Headers

The first line of a commit message, as in `[namespace] type(scope)!: subject`. `Header.parse`
reads a line and `Header.render` writes one. Scopes are distinct trimmed texts that are written
joined by a delimiter. A breaking change has an exclamation mark before the colon and an emoji at
the end of the subject; `Header.setBreaking` sets and removes both together.

A part of a message can carry a way of painting it and be shown with or without it. What is
painted never changes what the part says: painting is laid over the text when it is written out.
-/
namespace CommitStandard

/-- How a part is painted, if it has been given a paint, and whether the paint is shown. -/
structure Style where
  paint : Option (Text → Text)
  shown : Bool

namespace Style

/-- No paint, and none shown. -/
def plain : Style := ⟨none, false⟩

/-- Whether there is paint and it is shown. -/
def isActive (s : Style) : Bool := s.shown && s.paint.isSome

def apply (s : Style) (t : Text) : Text :=
  match s.paint, s.shown with
  | some paint, true => paint t
  | _, _ => t

def withPaint (s : Style) (paint : Text → Text) : Style := { s with paint := some paint }

def withShown (s : Style) (shown : Bool) : Style := { s with shown := shown }

@[simp] theorem apply_plain (t : Text) : plain.apply t = t := rfl

@[simp] theorem apply_hidden (s : Style) (t : Text) : (s.withShown false).apply t = t := by
  cases s with
  | mk paint shown => cases paint <;> rfl

end Style

/-- The fields of a header that are painted separately. -/
inductive HeaderField where
  | nameSpace
  | type
  | scope
  | subject
deriving DecidableEq, Repr

/-- How scopes are joined and breaking changes are marked. -/
structure HeaderOptions where
  scopeDelimiter : Text
  breakingEmoji : Text
deriving DecidableEq, Repr

/-- A comma between scopes and a warning sign on breaking changes. -/
def HeaderOptions.standard : HeaderOptions := ⟨[','], "⚠️".toList⟩

/-- The empty text cannot separate anything. -/
inductive ScopeError where
  | emptyDelimiter
deriving DecidableEq, Repr

def ScopeError.message : ScopeError → Text
  | emptyDelimiter => "empty separator".toList

/-- The first line of a commit message. -/
structure Header where
  nameSpace : Text
  type : Text
  scopes : List Text
  subject : Text
  breaking : Bool
  options : HeaderOptions
  styles : HeaderField → Style

namespace HeaderField

def all : List HeaderField := [nameSpace, type, scope, subject]

def part : HeaderField → Part
  | nameSpace => .nameSpace
  | type => .type
  | scope => .scope
  | subject => .subject

/-- The fields meant by the name of a part: all of them without a name or for the header, and
none for other parts. -/
def named : Option Text → List HeaderField
  | none => all
  | some name =>
    if name = Part.header.name then all else all.filter fun f => f.part.name == name

end HeaderField

namespace Header

/-- Adds a scope at the end, trimmed, unless it is empty or there already. -/
def insertScope (scopes : List Text) (scope : Text) : List Text :=
  let s := Text.strip scope
  if s.isEmpty || scopes.contains s then scopes else scopes ++ [s]

/-- The distinct trimmed scopes among texts. -/
def distinctScopes (values : List Text) : List Text := values.foldl insertScope []

/-- A header without paint. Only the scopes are tidied. -/
def make (options : HeaderOptions) (nameSpace type : Text) (scopes : List Text) (subject : Text)
    (breaking : Bool) : Header :=
  ⟨nameSpace, type, distinctScopes scopes, subject, breaking, options, fun _ => .plain⟩

def setNameSpace (h : Header) (value : Text) : Header := { h with nameSpace := Text.strip value }

def setType (h : Header) (value : Text) : Header := { h with type := Text.strip value }

def setSubject (h : Header) (value : Text) : Header := { h with subject := Text.strip value }

def setScopes (h : Header) (values : List Text) : Header :=
  { h with scopes := distinctScopes values }

/-- The texts between delimiters. -/
def splitScopes (delimiter s : Text) : Except ScopeError (List Text) :=
  if delimiter.isEmpty then .error .emptyDelimiter else .ok (Text.splitOn delimiter s)

/-- Sets the scopes from their joined form. -/
def setScope (h : Header) (value : Text) : Except ScopeError Header :=
  if value.isEmpty then .ok (h.setScopes [])
  else return h.setScopes (← splitScopes h.options.scopeDelimiter value)

def addScope (h : Header) (value : Text) : Header :=
  { h with scopes := insertScope h.scopes value }

def removeScope (h : Header) (value : Text) : Header :=
  { h with scopes := h.scopes.erase (Text.strip value) }

/-- The scopes in their joined form. -/
def scope (h : Header) : Text := Text.join h.options.scopeDelimiter h.scopes

/-- What stands between the type and the subject. -/
def separator (h : Header) : Text := if h.breaking then "!: ".toList else ": ".toList

/-- Puts the emoji at the end of a subject, unless it is there or there is no emoji. -/
def addEmoji (emoji subject : Text) : Text :=
  if emoji.isEmpty || emoji.isSuffixOf subject then subject
  else Text.strip (subject ++ ' ' :: emoji)

/-- Takes the emoji from the end of a subject, with the blanks before it. -/
def removeEmoji (emoji subject : Text) : Text :=
  if !emoji.isEmpty && emoji.isSuffixOf subject then
    Text.stripEnd (subject.take (subject.length - emoji.length))
  else subject

/-- Marks a header as breaking or removes the marks; nothing happens if it is as wanted. -/
def setBreaking (h : Header) (wanted : Bool) : Header :=
  if wanted = h.breaking then h
  else if wanted then
    { h with breaking := true, subject := addEmoji h.options.breakingEmoji h.subject }
  else
    { h with breaking := false, subject := removeEmoji h.options.breakingEmoji h.subject }

/-- Turns the breaking marks on or off. -/
def toggleBreaking (h : Header) : Header := h.setBreaking (!h.breaking)

def restyle (h : Header) (fields : List HeaderField) (f : Style → Style) : Header :=
  { h with styles := fun field => if field ∈ fields then f (h.styles field) else h.styles field }

def setPaint (h : Header) (fields : List HeaderField) (paint : Text → Text) : Header :=
  h.restyle fields (·.withPaint paint)

def showPaint (h : Header) (fields : List HeaderField) (shown : Bool) : Header :=
  h.restyle fields (·.withShown shown)

/-- A field as it is shown. An empty field is not painted. -/
def painted (h : Header) (field : HeaderField) (value : Text) : Text :=
  if value.isEmpty then value else (h.styles field).apply value

def render (h : Header) : Text :=
  (if h.nameSpace.isEmpty then [] else
    '[' :: (h.painted .nameSpace h.nameSpace ++ "] ".toList)) ++
  (if h.type.isEmpty && h.scopes.isEmpty then [] else
    h.painted .type h.type ++
      (if h.scopes.isEmpty then [] else '(' :: (h.painted .scope h.scope ++ [')'])) ++
      h.separator) ++
  h.painted .subject h.subject

/-- What stands before and after the first occurrence of a character. -/
def cutAtChar? (c : Char) (s : Text) : Option (Text × Text) :=
  match s.dropWhile (· ≠ c) with
  | [] => none
  | _ :: rest => some (s.takeWhile (· ≠ c), rest)

/-- The text without one space at its start. -/
def dropSpace : Text → Text
  | ' ' :: rest => rest
  | s => s

/-- Takes a namespace in brackets from the start, with the space after it. -/
def takeNameSpace (s : Text) : Text × Text :=
  match s with
  | '[' :: rest =>
    match cutAtChar? ']' rest with
    | some (inside, after) => (inside, dropSpace after)
    | none => ([], s)
  | _ => ([], s)

/-- What a line says before the colon: the type, the text between parentheses and whether an
exclamation mark follows. -/
structure Label where
  type : Text
  scope : Text
  breaking : Bool
deriving DecidableEq, Repr

/-- Takes a text in parentheses from the start, if there is one. -/
def takeParenthesized (s : Text) : Text × Text :=
  match s with
  | '(' :: rest =>
    match cutAtChar? ')' rest with
    | some (inside, after) => (inside, after)
    | none => ([], s)
  | _ => ([], s)

/-- Takes the label from the start of a line, up to the colon and the space after it. -/
def takeLabel? (s : Text) : Option (Label × Text) :=
  let type := s.takeWhile Text.isWord
  let (scope, s) := takeParenthesized (s.dropWhile Text.isWord)
  match s with
  | ':' :: rest => some (⟨type, scope, false⟩, dropSpace rest)
  | '!' :: ':' :: rest => some (⟨type, scope, true⟩, dropSpace rest)
  | _ => none

/-- Reads a line. A line without a label has no type, scopes or breaking mark. If the subject
would have a line feed in it, the whole line is the subject. -/
def parse (options : HeaderOptions) (line : Text) : Except ScopeError Header := do
  let line := Text.strip line
  let (nameSpace, rest) := takeNameSpace line
  let (label, subject) := (takeLabel? rest).getD (⟨[], [], false⟩, rest)
  if '\n' ∈ subject then return make options [] [] [] line false
  else
    let scopes ←
      if label.scope.isEmpty then pure [] else splitScopes options.scopeDelimiter label.scope
    return make options (Text.strip nameSpace) label.type scopes (Text.strip subject)
      label.breaking

end Header

end CommitStandard
