import CommitStandard.Message.Basic
import CommitStandard.Value.Basic

/-!
# Messages as data

A message is exchanged as a table of its fields. `Message.toValue` writes the table;
`Message.ofValue` reads one and is lenient: fields may be missing or empty in any way, the scopes
may be joined, and a footer may be a line, a table of its own, or anything that can be shown as
one line.
-/
namespace CommitStandard

/-- Why a table is no message. -/
inductive DataError where
  | scope (e : ScopeError)
  /-- What should be a table is none. -/
  | notTable
  /-- What should be a text, and tidied as one, is none. -/
  | notText
  /-- A field holds a value of a sort that has no place there. -/
  | mistyped
  /-- A footer is given as a value that cannot be shown. -/
  | unshown (e : DisplayFault)
deriving DecidableEq, Repr

namespace Message

/-- A footer of a line, which need not be in the form of one: the token ends at the first colon
that a space follows, and without one the colons at its end are dropped. -/
def looseFooter (line : Text) : Footer :=
  match Text.cutAt ": ".toList line with
  | some (token, text) => .make token text
  | none => .make (Text.dropEnd (· = ':') line) []

/-- The fields of a message, not yet tidied. -/
structure Draft where
  nameSpace : Text
  type : Text
  scopes : List Text
  subject : Text
  body : Text
  footers : List Footer

def ofDraft (options : HeaderOptions) (d : Draft) : Message :=
  .make (.make options d.nameSpace d.type d.scopes d.subject false) (Text.strip d.body) d.footers

def toValue (m : Message) : Value :=
  .table
    [("type".toList, .text m.header.type),
     ("namespace".toList, .text m.header.nameSpace),
     ("scope".toList, .ofTexts m.header.scopes),
     ("subject".toList, .text m.header.subject),
     ("body".toList, .text m.body),
     ("footers".toList, .ofTexts (m.footers.map Footer.plain))]

/-- The text in a field; every value that does not count as given is the empty text, and a value
of another sort is the given error. -/
def textField (other : DataError) (entries : Entries) (key : Text) : Except DataError Text :=
  match Entries.get? key entries with
  | none => .ok []
  | some v => if v.isGiven then
      match v with
      | .text s => .ok s
      | _ => .error other
    else .ok []

/-- The elements of a value: the items of a list, the characters of a text, the keys of a table.
A value that does not count as given has none. -/
def elements (v : Value) : Except DataError (List Value) :=
  if v.isGiven then
    match v with
    | .list items => .ok items
    | .text s => .ok (s.map fun c => .text [c])
    | .table entries => .ok ((Entries.keys entries).map .text)
    | _ => .error .mistyped
  else .ok []

/-- The scopes in a field, joined or listed. -/
def scopesField (options : HeaderOptions) (entries : Entries) : Except DataError (List Text) :=
  match Entries.get? "scope".toList entries with
  | none => .ok []
  | some (.text s) =>
    if s.isEmpty then .ok [] else (Header.splitScopes options.scopeDelimiter s).mapError .scope
  | some v => do
    let items ← elements v
    match items.mapM Value.text? with
    | some texts => return texts
    | none => throw .notText

/-- A footer given as a value: a table of token and text, or anything whose text is a line. -/
def footerOfValue (room : Nat) : Value → Except DataError Footer
  | .table entries =>
    match (Entries.get? "token".toList entries).getD (.text []),
        (Entries.get? "text".toList entries).getD (.text []) with
    | .text token, .text text => .ok (.make token text)
    | _, _ => .error .notText
  | v => looseFooter <$> (v.display room).mapError .unshown

/-- The footers in the field `footers`, or without that in `footer`. -/
def footersField (room : Nat) (entries : Entries) : Except DataError (List Footer) := do
  let given := (Entries.get? "footers".toList entries).or (Entries.get? "footer".toList entries)
  (← elements (given.getD .null)).mapM (footerOfValue room)

/-- Reads the table of a message. In a footer there is room for so many lists and tables inside
each other. -/
def ofValue (room : Nat) (options : HeaderOptions) : Value → Except DataError Message
  | .table entries => do
    let scopes ← scopesField options entries
    let footers ← footersField room entries
    let body ← textField .notText entries "body".toList
    return ofDraft options
      { nameSpace := ← textField .mistyped entries "namespace".toList
        type := ← textField .mistyped entries "type".toList
        scopes
        subject := ← textField .mistyped entries "subject".toList
        body
        footers }
  | _ => .error .notTable

end Message

end CommitStandard
