import CommitStandard.Rule.Vocabulary

/-!
# What settings rest on

Settings are kept in documents: texts that stand for tables. What reads and writes documents, which
values are taken for which settings, and how deep values may lie inside each other where they are
copied and shown, is up to the `Platform`. Nothing is asked of a `DocumentFormat` here: it need not
read back what it has written, nor write every table. `Coercions` says which values are taken for
severities, applicabilities and truth values; all that is asked of them is that what is written in
the plain way is taken for what it is. `Coercions.lax` is generous: it takes numbers that are
written as texts or with a fraction of zeros, and the usual words for truth values.
-/
namespace CommitStandard

/-! ## Coercions -/

/-- Which values are taken for severities, applicabilities and truth values. -/
structure Coercions where
  severity? : Value → Option Severity
  applicability? : Value → Option Applicability
  flag? : Value → Option Bool
  /-- The number of a severity stands for it. -/
  severity?_int : ∀ s : Severity, severity? (.int s.toNat) = some s
  /-- The name of an applicability stands for it. -/
  applicability?_text : ∀ a : Applicability, applicability? (.text a.name) = some a
  /-- A truth value stands for itself. -/
  flag?_bool : ∀ b : Bool, flag? (.bool b) = some b

attribute [simp] Coercions.severity?_int Coercions.applicability?_text Coercions.flag?_bool

namespace Coercions

/-- The white space that may surround a number. -/
def isSpace (c : Char) : Bool := Text.isBlank c && !('\x1c' ≤ c && c ≤ '\x1f')

/-- A whole number written as text: blanks around it and a fraction of zeros are overlooked. -/
def wholeNumber? (s : Text) : Option Int :=
  let (negative, digits) := Text.splitSign (Text.trim isSpace s)
  let whole := digits.takeWhile (· ≠ '.')
  let fraction := (digits.dropWhile (· ≠ '.')).drop 1
  if fraction.all (· = '0') then
    (Text.groupedDigits? whole).map fun n => if negative then -(n : Int) else n
  else none

/-- The severity that a value stands for: its number, possibly written as a text. -/
def laxSeverity? : Value → Option Severity
  | .int n => Severity.ofInt? n
  | .float x => x.toInt?.bind Severity.ofInt?
  | .text s => (wholeNumber? s).bind Severity.ofInt?
  | _ => none

/-- The applicability that a value names. -/
def laxApplicability? : Value → Option Applicability
  | .text s => Applicability.ofName? s
  | _ => none

/-- The truth value with a number. -/
def flagOfInt? (n : Int) : Option Bool :=
  if n = 0 then some false else if n = 1 then some true else none

/-- The truth value that a value stands for: its number or one of its names, in any letter
case. -/
def laxFlag? : Value → Option Bool
  | .bool b => some b
  | .int n => flagOfInt? n
  | .float x => x.toInt?.bind flagOfInt?
  | .text s =>
    let name := String.ofList (s.map fun c =>
      if Text.asciiUpper c then Char.ofNat (c.toNat + 32) else c)
    if ["1", "t", "true", "y", "yes", "on"].contains name then some true
    else if ["0", "f", "false", "n", "no", "off"].contains name then some false
    else none
  | _ => none

def lax : Coercions where
  severity? := laxSeverity?
  applicability? := laxApplicability?
  flag? := laxFlag?
  severity?_int s := by cases s <;> rfl
  applicability?_text a := by cases a <;> rfl
  flag?_bool _ := rfl

end Coercions

/-! ## Documents -/

/-- What goes beyond a limit of reading. -/
inductive Excess where
  /-- Something lies too deep inside something else. -/
  | depth (reason : Text)
  /-- A decimal whole number with so many digits. -/
  | digits (count : Nat)
deriving DecidableEq, Repr

def Excess.message : Excess → Text
  | depth reason => reason
  | digits count =>
    "Exceeds the limit (".toList ++ Text.ofNat Text.digitLimit ++
      " digits) for integer string conversion: value has ".toList ++ Text.ofNat count ++
      " digits; use sys.set_int_max_str_digits() to increase the limit".toList

/-- Why a text cannot be read as a document. -/
inductive DocumentFault where
  | malformed
  | beyond (e : Excess)
deriving DecidableEq, Repr

/-- Why a table cannot be written as a document. -/
inductive WriteFault where
  /-- Documents cannot hold a value in the table. -/
  | refused (reason : Text)
  | tooDeep
deriving DecidableEq, Repr

/-- How tables are read from texts and written as texts. -/
structure DocumentFormat where
  read : Text → Except DocumentFault Entries
  write : Entries → Except WriteFault Text

/-- What settings rest on. -/
structure Platform where
  coercions : Coercions
  format : DocumentFormat
  /-- How many lists and tables may lie inside each other where rules are copied. -/
  copyDepth : Nat
  /-- How many lists and tables may lie inside each other where a value is shown. -/
  displayDepth : Nat

end CommitStandard
