import CommitStandard.Value.Basic

/-!
# The vocabulary of rules

How strongly a rule is meant, whether it demands or forbids, the parts of a commit message that
a rule can look at, and the kinds of constraint it can make. Each has a name in settings files.
-/
namespace CommitStandard

/-- How much a violation counts. -/
inductive Severity where
  | disabled
  | warning
  | error
deriving DecidableEq, Repr

/-- Whether a constraint has to hold or must not hold. -/
inductive Applicability where
  | always
  | never
deriving DecidableEq, Repr

inductive Part where
  | nameSpace
  | type
  | scope
  | subject
  | header
  | body
  | footer
  | footers
  | trailer
deriving DecidableEq, Repr

inductive Kind where
  | empty
  | trim
  | fullStop
  | exclamationMark
  | maxLength
  | minLength
  | maxLineLength
  | leadingBlank
  | letterCase
  | enum
  | allowMultiple
  | presence
  | alignment
deriving DecidableEq, Repr

/-- A name or number that stands for nothing in the vocabulary. -/
inductive Unrecognized where
  | severity (n : Int)
  | applicability (name : Text)
  | kind (name : Text)
  | cases (names : List Text)
deriving DecidableEq, Repr

/-- The wording of an unrecognized name. A number with too many digits to be written is not worded
but for that. -/
def Unrecognized.message : Unrecognized → Text
  | .severity n =>
    match Text.ofInt n with
    | .ok numeral => numeral ++ " is not a valid Severity".toList
    | .error excess => excess.message
  | .applicability name => Text.literal name ++ " is not a valid Applicability".toList
  | .kind name => Text.literal name ++ " is not a valid RuleType".toList
  | .cases names =>
    let listed := Text.join ", ".toList names
    "Unknown case type(s): ".toList ++ (if listed.isEmpty then "<none>".toList else listed)

namespace Severity

/-- The number of a severity in settings. -/
def toNat : Severity → Nat
  | disabled => 0
  | warning => 1
  | error => 2

def ofInt? (n : Int) : Option Severity :=
  if n = 0 then some disabled
  else if n = 1 then some warning
  else if n = 2 then some error
  else none

end Severity

namespace Applicability

def name : Applicability → Text
  | always => "always".toList
  | never => "never".toList

def ofName? (name : Text) : Option Applicability :=
  [always, never].find? fun a => a.name == name

end Applicability

namespace Part

def name : Part → Text
  | nameSpace => "namespace".toList
  | type => "type".toList
  | scope => "scope".toList
  | subject => "subject".toList
  | header => "header".toList
  | body => "body".toList
  | footer => "footer".toList
  | footers => "footers".toList
  | trailer => "trailer".toList

def all : List Part :=
  [nameSpace, type, scope, subject, header, body, footer, footers, trailer]

def ofName? (name : Text) : Option Part := all.find? fun p => p.name == name

end Part

namespace Kind

def name : Kind → Text
  | empty => "empty".toList
  | trim => "trim".toList
  | fullStop => "full-stop".toList
  | exclamationMark => "exclamation-mark".toList
  | maxLength => "max-length".toList
  | minLength => "min-length".toList
  | maxLineLength => "max-line-length".toList
  | leadingBlank => "leading-blank".toList
  | letterCase => "case".toList
  | enum => "enum".toList
  | allowMultiple => "allow-multiple".toList
  | presence => "exists".toList
  | alignment => "alignment".toList

def all : List Kind :=
  [empty, trim, fullStop, exclamationMark, maxLength, minLength, maxLineLength, leadingBlank,
   letterCase, enum, allowMultiple, presence, alignment]

def ofName? (name : Text) : Option Kind := all.find? fun k => k.name == name

/-- The kind with a name, or the name as the reason why there is none. -/
def ofName (name : Text) : Except Unrecognized Kind :=
  match ofName? name with
  | some k => .ok k
  | none => .error (.kind name)

end Kind

end CommitStandard
