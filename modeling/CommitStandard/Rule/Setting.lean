import CommitStandard.Platform
import CommitStandard.Rule.Basic

/-!
# Rules from settings

A settings file configures a rule under its identifier, the name of a part and the name of a kind
joined by a hyphen, by an entry of up to three items: a severity, an applicability and a value.
`createRule?` builds the rule; an entry that is malformed, disabled or outside the domain of the
kind builds none. What counts as a severity and as an applicability is up to the coercions.
`Rule.ofUnchecked` builds a rule whatever its value, for callers that vouch for it.
-/
namespace CommitStandard

/-- An entry for a rule: written out, or produced when it is needed, which may fail. -/
inductive Entry where
  | given (value : Value)
  | produced (value : Option Value)
deriving Inhabited

def Entry.value? : Entry → Option Value
  | .given value => some value
  | .produced value => value

/-- The severity, applicability and value that an entry gives. -/
structure Setting where
  severity : Severity
  applicability : Applicability
  value : Value

namespace Setting

/-- Reads the items of an entry. The applicability is `always` and the value absent unless they
are given. A truth value is never taken for a severity. -/
def ofItems? (c : Coercions) : List Value → Option Setting
  | .bool _ :: _ => none
  | [s] => do return ⟨← c.severity? s, .always, .null⟩
  | [s, a] => do return ⟨← c.severity? s, ← c.applicability? a, .null⟩
  | [s, a, value] => do return ⟨← c.severity? s, ← c.applicability? a, value⟩
  | _ => none

def ofEntry? (c : Coercions) (e : Entry) : Option Setting :=
  match e.value? with
  | some (.list items) => ofItems? c items
  | _ => none

end Setting

def splitRuleId? (id : Text) : Option (Part × Kind) := do
  let part ← Part.ofName? (id.takeWhile (· ≠ '-'))
  let kind ← Kind.ofName? ((id.dropWhile (· ≠ '-')).drop 1)
  return (part, kind)

namespace Constraint

/-- A text that is not empty, with a default for the absent value. -/
def textOr? (default : Text) : Value → Option Text
  | .null => some default
  | .text s => if s.isEmpty then none else some s
  | _ => none

/-- A number of characters. -/
def count? : Value → Option Int
  | .int n => if n < 0 then none else some n
  | _ => none

/-- One or more names of cases. -/
def cases? (value : Value) : Option (List LetterCase) := do
  let names ← value.oneOrMoreTexts?
  if names.isEmpty then none else names.mapM LetterCase.ofName?

/-- One or more texts. -/
def someTexts? (value : Value) : Option (List Text) := do
  let texts ← value.oneOrMoreTexts?
  if texts.isEmpty then none else some texts

/-- The constraint of a kind with a value, if the value is in the domain of the kind. -/
def ofValue? (kind : Kind) (value : Value) : Option Constraint :=
  match kind with
  | .empty => some (.each .empty)
  | .trim => some (.each .trim)
  | .fullStop => (textOr? ['.'] value).map fun s => .each (.fullStop s)
  | .exclamationMark => some (.each .exclamationMark)
  | .maxLength => (count? value).map fun n => .each (.maxLength n)
  | .minLength => (count? value).map fun n => .each (.minLength n)
  | .maxLineLength => (count? value).map fun n => .each (.maxLineLength n)
  | .leadingBlank => some (.each .leadingBlank)
  | .letterCase => (cases? value).map fun cs => .each (.letterCase cs)
  | .enum => value.oneOrMoreTexts?.map fun vs => .each (.enum vs)
  | .allowMultiple => (textOr? [','] value).map .allowMultiple
  | .presence => (someTexts? value).map .presence
  | .alignment => (someTexts? value).map .alignment

end Constraint

/-- Builds the rule that an entry configures under an identifier. -/
def createRule? (c : Coercions) (id : Text) (entry : Entry) : Option Rule := do
  let (part, kind) ← splitRuleId? id
  let setting ← Setting.ofEntry? c entry
  if setting.severity = .disabled then none
  else
    let constraint ← Constraint.ofValue? kind setting.value
    return ⟨part.name, setting.severity, setting.applicability, constraint⟩

/-- Why no rule can be built. -/
inductive BuildError where
  | unrecognized (u : Unrecognized)
  /-- The value is of a sort that the kind of rule has no use for. -/
  | mistyped
deriving DecidableEq, Repr

namespace Constraint

/-- The characters of a text, the keys of a table and the texts of a list. -/
def elements : Value → Except BuildError (List Text)
  | .text s => .ok (s.map fun c => [c])
  | .table entries => .ok (Entries.keys entries)
  | value => match value.texts? with
    | some texts => .ok texts
    | none => .error .mistyped

/-- A value that has to be a text. -/
def asText : Value → Except BuildError Text
  | .text s => .ok s
  | _ => .error .mistyped

/-- A value that has to be a whole number. -/
def asInt : Value → Except BuildError Int
  | .int n => .ok n
  | _ => .error .mistyped

/-- The cases that names stand for. A text is the name of one case. -/
def asCases (value : Value) : Except BuildError (List LetterCase) := do
  let names ← match value with
    | .text name => pure [name]
    | value => elements value
  let unknown := names.filter fun n => (LetterCase.ofName? n).isNone
  if names.isEmpty || !unknown.isEmpty then throw (.unrecognized (.cases unknown))
  else return names.filterMap LetterCase.ofName?

/-- The constraint of a kind with a value that is not checked against the domain of the kind. -/
def ofUnchecked (kind : Kind) (value : Option Value) : Except BuildError Constraint :=
  match kind with
  | .empty => .ok (.each .empty)
  | .trim => .ok (.each .trim)
  | .fullStop => return .each (.fullStop (← asText (value.getD (.text ['.']))))
  | .exclamationMark => .ok (.each .exclamationMark)
  | .maxLength => return .each (.maxLength (← asInt (value.getD (.int 0))))
  | .minLength => return .each (.minLength (← asInt (value.getD (.int 0))))
  | .maxLineLength => return .each (.maxLineLength (← asInt (value.getD (.int 0))))
  | .leadingBlank => .ok (.each .leadingBlank)
  | .letterCase =>
    return .each (.letterCase (← asCases (value.getD (.text LetterCase.lower.name))))
  | .enum => return .each (.enum (← elements (value.getD (.list []))))
  | .allowMultiple => .ok (.allowMultiple ((value.bind Value.text?).getD [',']))
  | .presence => return .presence (← elements (value.getD (.list [])))
  | .alignment => return .alignment (← elements (value.getD (.list [])))

end Constraint

/-- A rule built from a value, and the value that it shows. -/
structure BuiltRule where
  rule : Rule
  value : Value

/-- Whether rules of a kind work alike whatever their value. -/
def Kind.ignoresValue : Kind → Bool
  | .empty | .trim | .exclamationMark | .leadingBlank | .allowMultiple => true
  | _ => false

/-- Builds a rule from the names and numbers that settings use. The value is judged first, then
the severity, then the applicability. A rule that works alike whatever its value shows the one
that it was given. -/
def Rule.ofUnchecked (part : Text) (kind : Kind) (severity : Int) (applicability : Text)
    (value : Option Value) : Except BuildError BuiltRule := do
  let constraint ← Constraint.ofUnchecked kind value
  let severity ← match Severity.ofInt? severity with
    | some s => pure s
    | none => throw (.unrecognized (.severity severity))
  let applicability ← match Applicability.ofName? applicability with
    | some a => pure a
    | none => throw (.unrecognized (.applicability applicability))
  let rule : Rule := ⟨part, severity, applicability, constraint⟩
  return ⟨rule, if kind.ignoresValue then value.getD rule.value else rule.value⟩

end CommitStandard
