import CommitStandard.Namespace
import CommitStandard.Rule.Test

/-!
# Rules

A rule demands or forbids a constraint of one part of a commit message. It looks at the list of
the part's values, so that a violation can name the value by its index. `Rule.validate` lists the
violations, `Rule.fix` changes what it can and lists what is left, and `Rule.check` sorts the
outcome by the severity of the rule. A violation says what the rule demands, so that none can be
reported by a rule whose limit has too many digits to be written.

Most constraints are tests of each value alone; the others look at the list as a whole. A rule can
also carry a check of its own, which may break down.
-/
namespace CommitStandard

/-- The changed files of a commit, as paths from the root of the repository. -/
abbrev ChangedFiles := List Text

/-- A violation: the index of the value and what is wrong with it. -/
abbrev Finding := Nat × Text

/-- Why a check broke down. -/
inductive Fault where
  | width (e : Text.InvalidWidth)
  /-- What the rule demands cannot be written. -/
  | digits (e : Text.DigitExcess)
  | other (reason : Text)
deriving DecidableEq, Repr

def Fault.message : Fault → Text
  | .width e => e.message
  | .digits e => e.message
  | .other reason => reason

/-- A check that is not one of the built-in ones. -/
structure CustomCheck where
  kind : Kind
  /-- What a rule with the check demands or forbids, as the end of a sentence. -/
  predicate : Text
  validate : List Text → Option ChangedFiles → Except Fault (List Finding)
  fix : List Text → Option ChangedFiles → Except Fault (List Finding × List Text)

/-- What a rule demands or forbids. -/
inductive Constraint where
  /-- A test of every value alone. -/
  | each (test : Test)
  /-- More than one value. The delimiter is the one that the values are joined with. -/
  | allowMultiple (delimiter : Text)
  /-- The values to be found among those of the part. -/
  | presence (values : List Text)
  /-- The namespace of the changed files, where namespaces are declared by directories. -/
  | alignment (directories : List Text)
  | custom (check : CustomCheck)

/-- A constraint on one part of a commit message. -/
structure Rule where
  part : Text
  severity : Severity
  applicability : Applicability
  constraint : Constraint

def Constraint.kind : Constraint → Kind
  | .each test => test.kind
  | .allowMultiple _ => .allowMultiple
  | .presence _ => .presence
  | .alignment _ => .alignment
  | .custom check => check.kind

def Constraint.value : Constraint → Value
  | .each test => test.value
  | .allowMultiple delimiter => .text delimiter
  | .presence values | .alignment values => Value.ofTexts values
  | .custom _ => .null

/-- What a rule with the constraint demands or forbids, as the end of a sentence. -/
def Constraint.predicate (a : Applicability) : Constraint → Except Text.DigitExcess Text
  | .each test => test.predicate
  | .allowMultiple _ => .ok "allow multiple values".toList
  | .presence values =>
    let items := values.map Text.quoted
    .ok ("include ".toList ++ (if a = .always then Text.listAnd items else Text.listOr items))
  | .alignment _ => .ok "match the namespace of the changed files".toList
  | .custom check => .ok check.predicate

namespace Rule

def kind (r : Rule) : Kind := r.constraint.kind

def value (r : Rule) : Value := r.constraint.value

def id (r : Rule) : Text := r.part ++ '-' :: r.kind.name

def describe (r : Rule) : Except Fault Text := do
  let predicate ← (r.constraint.predicate r.applicability).mapError .digits
  return "The ".toList ++ r.part ++ " must ".toList ++ r.applicability.name ++ ' ' :: predicate

/-- Violations at indexes, each worded by the rule as a sentence, which is written only for
them. -/
def report (r : Rule) (indexes : List Nat) : Except Fault (List Finding) :=
  indexes.mapM fun index => do return (index, ← r.describe)

/-- Whether the rule is content with the answer of its test; it is if there is no answer. -/
def accepts (r : Rule) : Option Bool → Bool
  | none => true
  | some holds => holds == (r.applicability == .always)

/-- Whether a value complies with a test under the rule's applicability. -/
def complies (r : Rule) (test : Test) (s : Text) : Bool := r.accepts (test.holds s)

/-- The indexes of the values that do not comply with a test. -/
def violating (r : Rule) (test : Test) (values : List Text) : List Nat :=
  values.zipIdx.filterMap fun (s, index) => if r.complies test s then none else some index

/-- The values that a test looks at. A part without values counts as one empty value where
emptiness is tested. -/
def testedValues : Test → List Text → List Text
  | .empty, [] => [[]]
  | _, values => values

/-- The listed values that are missing from a part. -/
def missing (wanted values : List Text) : List Text :=
  wanted.filter fun w => !(values.map Text.strip).contains w

/-- The error that a check names first, or else the rule as a sentence. -/
def firstError (r : Rule) (check : NamespaceCheck) : Except Fault Text :=
  match check.errors with
  | e :: _ => .ok e
  | [] => r.describe

/-- The violation of an alignment with the changed files, if there is one. -/
def alignmentError? (r : Rule) (directories values : List Text) (files : ChangedFiles) :
    Except Fault (Option Text) :=
  let resolver := Resolver.ofPatterns directories
  let declared := Text.strip (values.headD [])
  let single := resolver.checkSingle files
  let aligned := resolver.checkAlignment declared files
  if single.valid then
    if aligned.valid then .ok none else some <$> r.firstError aligned
  else some <$> r.firstError single

def validate (r : Rule) (values : List Text) (files : Option ChangedFiles) :
    Except Fault (List Finding) :=
  match r.constraint, r.applicability with
  | .each test, _ => r.report (r.violating test (testedValues test values))
  | .allowMultiple _, .always => .ok []
  | .allowMultiple _, .never => r.report (List.range' 1 (values.length - 1))
  | .presence wanted, .always => r.report (if (missing wanted values).isEmpty then [] else [0])
  | .presence forbidden, .never =>
    (values.zipIdx.filter fun v => forbidden.contains (Text.strip v.1)).mapM fun (s, index) => do
      return (index, "Forbidden value: ".toList ++ Text.quoted (Text.strip s) ++ " - ".toList ++
        (← r.describe))
  | .alignment directories, .always =>
    match files with
    | none | some [] => .ok []
    | some files => do
      return (← r.alignmentError? directories values files).toList.map fun e => (0, e)
  | .alignment _, .never => .ok []
  | .custom check, _ => check.validate values files

/-- Changes the values that do not comply with a test. -/
def repairEach (r : Rule) (test : Test) (repair : Text → Except Text.InvalidWidth Text)
    (values : List Text) : Except Fault (List Text) :=
  (values.mapM fun s => if r.complies test s then .ok s else repair s).mapError .width

/-- What is left of the violations of a rule after a repair, and the repaired values. -/
def fix (r : Rule) (values : List Text) (files : Option ChangedFiles) :
    Except Fault (List Finding × List Text) :=
  match r.constraint, r.applicability with
  | .each test, a =>
    match test.repair? a with
    | some repair => do
      let repaired ← r.repairEach test repair values
      return (← r.validate repaired none, repaired)
    | none => return (← r.validate values none, values)
  | .allowMultiple _, .always => .ok ([], values)
  | .allowMultiple _, .never => .ok ([], values.take 1)
  | .presence wanted, .always => .ok ([], values ++ missing wanted values)
  | .presence forbidden, .never =>
    .ok ([], values.filter fun s => !forbidden.contains (Text.strip s))
  | .alignment _, _ => return (← r.validate values files, values)
  | .custom check, _ => check.fix values files

/-- What a check leaves: the values, and the violations that count as errors and as warnings. -/
structure Outcome where
  output : List Text
  errors : List Finding
  warnings : List Finding
deriving DecidableEq, Repr

def outcome (r : Rule) (output : List Text) (findings : List Finding) : Outcome :=
  if r.severity = .warning then ⟨output, [], findings⟩ else ⟨output, findings, []⟩

/-- Runs a rule on values, repairing them if asked to. Values that comply, and values under a
disabled rule, come back as they are. -/
def check (r : Rule) (values : List Text) (attemptFix : Bool) (files : Option ChangedFiles) :
    Except Fault Outcome :=
  if r.severity = .disabled then .ok ⟨values, [], []⟩
  else do
    let findings ← r.validate values files
    if findings.isEmpty then return ⟨values, [], []⟩
    else if attemptFix then
      let (left, repaired) ← r.fix values files
      return r.outcome repaired left
    else return r.outcome values findings

end Rule

end CommitStandard
