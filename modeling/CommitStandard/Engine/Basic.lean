import CommitStandard.Rule.Setting

/-!
# Engines

An engine is an ordered set of rules under their identifiers. It runs the rules over the values
of a part in that order, each on the values that the one before has left, so that repairs
compose; the main definition is `Engine.evaluate`. Engines are made smaller by part and by kind.
Violations are recorded in the order in which the rules report them, each with the index of the
value that it is about and a label that names the part and the index. They are read by index.
-/
namespace CommitStandard

/-- Recorded violations: indexes and labelled messages, in the order of recording. -/
structure Violations where
  recorded : List Finding
deriving DecidableEq, Repr

namespace Violations

def none : Violations := ⟨[]⟩

/-- A message with the part and the index that it is about. -/
def label (part : Text) (index : Nat) (message : Text) : Text :=
  '[' :: (part ++ ':' :: (Text.ofNat index ++ "] ".toList ++ message))

def record (v : Violations) (part : Text) (findings : List Finding) : Violations :=
  ⟨v.recorded ++ findings.map fun (index, message) => (index, label part index message)⟩

/-- The messages about one value, in the order of recording. -/
def messagesAt (v : Violations) (index : Nat) : List Text :=
  v.recorded.filterMap fun (i, message) => if i = index then some message else Option.none

/-- Adds an index to an increasing list, unless it is there. -/
def insertIndex (index : Nat) : List Nat → List Nat
  | [] => [index]
  | i :: is =>
    if index < i then index :: i :: is
    else if index = i then i :: is
    else i :: insertIndex index is

/-- The distinct indexes in a list, increasing. -/
def sortIndexes (indexes : List Nat) : List Nat := indexes.foldr insertIndex []

def indexes (v : Violations) : List Nat := sortIndexes (v.recorded.map Prod.fst)

/-- All messages, by increasing index. -/
def messages (v : Violations) : List Text := v.indexes.flatMap v.messagesAt

def count (v : Violations) : Nat := v.recorded.length

def isEmpty (v : Violations) : Bool := v.recorded.isEmpty

@[simp] theorem recorded_record (v : Violations) (part : Text) (findings : List Finding) :
    (v.record part findings).recorded =
      v.recorded ++ findings.map fun f => (f.1, label part f.1 f.2) := rfl

@[simp] theorem record_nil (v : Violations) (part : Text) : v.record part [] = v := by
  simp [record]

end Violations

/-- Rules under their identifiers, in the order in which they run, each identifier once. -/
structure Engine where
  rules : List (Text × Rule)

/-- What an evaluation leaves: the values, and the violations that count as errors and as
warnings. -/
structure Evaluation where
  output : List Text
  errors : Violations
  warnings : Violations
deriving DecidableEq, Repr

def Evaluation.isValid (e : Evaluation) : Bool := e.errors.isEmpty

/-- The first value left, or the empty one. -/
def Evaluation.firstValue (e : Evaluation) : Text := e.output.headD []

/-- A rule identifier that an engine does not have. -/
structure MissingRule where
  id : Text
deriving DecidableEq, Repr

namespace Engine

/-- The engine of the entries that configure a rule; all others are left out. -/
def ofEntries (c : Coercions) (entries : List (Text × Entry)) : Engine :=
  ⟨entries.filterMap fun (id, entry) => (createRule? c id entry).map fun rule => (id, rule)⟩

def ofRules (c : Coercions) (rules : Entries) : Engine :=
  ofEntries c (rules.map fun (id, v) => (id, .given v))

def ids (e : Engine) : List Text := e.rules.map Prod.fst

def isEmpty (e : Engine) : Bool := e.rules.isEmpty

def contains (e : Engine) (id : Text) : Bool := e.rules.any fun r => r.1 == id

def get (e : Engine) (id : Text) : Except MissingRule Rule :=
  match e.rules.lookup id with
  | some rule => .ok rule
  | none => .error ⟨id⟩

/-- Records what a check of a rule leaves. A check that breaks down counts as an error of the
first value and changes nothing. -/
def record (e : Evaluation) (rule : Rule) : Except Fault Rule.Outcome → Evaluation
  | .ok o => ⟨o.output, e.errors.record rule.part o.errors, e.warnings.record rule.part o.warnings⟩
  | .error fault =>
    let report := rule.id ++ " failed: ".toList ++ fault.message
    ⟨e.output, e.errors.record rule.part [(0, report)], e.warnings⟩

/-- Runs one rule after what has been evaluated. -/
def step (attemptFix : Bool) (files : Option ChangedFiles) (e : Evaluation) (rule : Rule) :
    Evaluation :=
  record e rule (rule.check e.output attemptFix files)

/-- Runs every rule in order. -/
def evaluate (e : Engine) (values : List Text) (attemptFix : Bool)
    (files : Option ChangedFiles) : Evaluation :=
  (e.rules.map Prod.snd).foldl (step attemptFix files) ⟨values, .none, .none⟩

/-- The repaired form of a value. -/
def parse (e : Engine) (value : Text) (files : Option ChangedFiles) : Text :=
  (e.evaluate [value] true files).firstValue

/-- The rules under identifiers that begin with the name of one of the parts. -/
def narrow (e : Engine) (parts : List Text) : Engine :=
  ⟨e.rules.filter fun (id, _) => parts.any fun p => (p ++ ['-']).isPrefixOf id⟩

def forPart (e : Engine) (part : Part) : Engine := e.narrow [part.name]

def extract (e : Engine) (kinds : List Kind) : Engine :=
  ⟨e.rules.filter fun (_, rule) => kinds.contains rule.kind⟩

def without (e : Engine) (kinds : List Kind) : Engine :=
  ⟨e.rules.filter fun (_, rule) => !kinds.contains rule.kind⟩

/-- The rules of the kinds, without their identifiers. -/
def rulesOf (e : Engine) (kinds : List Kind) : List Rule :=
  (e.rules.map Prod.snd).filter fun rule => kinds.contains rule.kind

end Engine

/-- The properties of a commit message, in the order in which they are listed. -/
def Part.properties : List Part := [.nameSpace, .type, .scope, .subject, .body, .footers]

/-- The properties that a message must, may and must not have. -/
structure AllowedProperties where
  required : List Part
  optional : List Part
  forbidden : List Part
deriving DecidableEq, Repr

namespace Engine

/-- The rules about emptiness that decide on a property. -/
def emptinessRules (e : Engine) (property : Part) : List Rule :=
  (e.rulesOf [.empty]).filter fun rule =>
    rule.part == property.name && rule.part != Part.footer.name &&
      rule.part != Part.trailer.name && rule.severity != .disabled

def trailerDemands (e : Engine) : List Rule :=
  ((e.forPart .trailer).rulesOf [.presence]).filter fun rule => rule.applicability == .always

/-- Whether a rule demands footers by naming a trailer. -/
def demandsFooters (e : Engine) (property : Part) : Bool :=
  property == .footers && !e.trailerDemands.isEmpty

/-- The properties that a message must, may and must not have. A property that must not be empty
is required and one that must be is forbidden; a demanded trailer makes footers required. The
namespace is optional without being listed so. -/
def allowedProperties (e : Engine) : AllowedProperties where
  required := Part.properties.filter fun p =>
    e.demandsFooters p || (e.emptinessRules p).any (·.applicability == .never)
  optional := Part.properties.filter fun p =>
    !e.demandsFooters p && p != .nameSpace && (e.emptinessRules p).isEmpty
  forbidden := Part.properties.filter fun p =>
    !e.demandsFooters p && (e.emptinessRules p).any (·.applicability == .always)

end Engine

/-- The resolver of an engine's namespace rules: its directories, or without those the listed
namespaces. -/
def Resolver.ofEngine (e : Engine) : Resolver :=
  let rules := e.forPart .nameSpace
  match rules.rulesOf [.alignment] ++ rules.rulesOf [.enum] with
  | rule :: _ => Resolver.ofPatterns (rule.value.texts?.getD [])
  | [] => ⟨[]⟩

end CommitStandard
