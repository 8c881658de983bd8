import CommitStandard.Rule.LetterCase
import CommitStandard.Rule.Vocabulary
import CommitStandard.Text.Cut
import CommitStandard.Text.Wrap

/-!
# Tests on single values

A test looks at one value of a part, on its own. `Test.holds` is its answer, where no answer
means that the test does not apply to the value, and `Test.repair?` the change that makes a value
comply, for the tests that have one. Four tests leave empty values alone, since whether a value
may be empty is a test of its own.
-/
namespace CommitStandard

/-- A test on a single value. -/
inductive Test where
  /-- The value has nothing but blanks. -/
  | empty
  /-- The value has no blanks around it. -/
  | trim
  /-- The value ends with a symbol. -/
  | fullStop (stop : Text)
  /-- The value has an exclamation mark right before its first colon. -/
  | exclamationMark
  /-- The value has at most so many characters. -/
  | maxLength (limit : Int)
  /-- The value has at least so many characters. -/
  | minLength (limit : Int)
  /-- Every line of the value has at most so many characters. -/
  | maxLineLength (limit : Int)
  /-- The value begins with a blank line. -/
  | leadingBlank
  /-- The value is written in one of the cases. -/
  | letterCase (cases : List LetterCase)
  /-- The value is one of those listed. -/
  | enum (values : List Text)
deriving DecidableEq, Repr

namespace Test

/-- The names of symbols that sentences end with. -/
def symbolName? (symbol : Text) : Option Text :=
  [(".", "full stop"), ("!", "exclamation mark"), ("?", "question mark"), (",", "comma"),
   (";", "semicolon"), (":", "colon"), ("-", "hyphen"), ("…", "ellipsis")].findSome?
    fun (mark, name) => if mark.toList = symbol then some name.toList else none

/-- Whether the character before the first colon is an exclamation mark. -/
def hasMark (s : Text) : Bool :=
  ':' ∈ s && (s.takeWhile (· ≠ ':')).getLast? == some '!'

/-- The value with an exclamation mark before its first colon, or with none there. A value
without a colon, or with nothing before it, is left alone. -/
def setMark (wanted : Bool) (s : Text) : Text :=
  let before := s.takeWhile (· ≠ ':')
  let after := s.dropWhile (· ≠ ':')
  if before.isEmpty || after.isEmpty then s
  else if wanted then before ++ '!' :: after
  else Text.dropEnd (· = '!') before ++ after

/-- The blanks at the start, up to the last line feed among them, if there is one. -/
def leadingBlank? (s : Text) : Option Text :=
  let blanks := s.takeWhile Text.isBlank
  if '\n' ∈ blanks then some (Text.dropEnd (· ≠ '\n') blanks) else none

/-- Removes the symbol from the end until the value does not end with it. Nothing can be removed
of the empty symbol. -/
def removeStops (stop s : Text) : Text :=
  if h : stop.isSuffixOf s ∧ stop ≠ [] then
    have : s.length - stop.length < s.length := by
      have := (List.isSuffixOf_iff_suffix.1 h.1).length_le
      have := List.length_pos_iff.2 h.2
      omega
    removeStops stop (s.take (s.length - stop.length))
  else s
  termination_by s.length

/-- What a test says of a value, or nothing if it does not apply to it. -/
def holds : Test → Text → Option Bool
  | empty, s => some (Text.isBlankText s)
  | trim, s => some (s == Text.strip s)
  | fullStop stop, s => if s.isEmpty then none else some (stop.isSuffixOf s)
  | exclamationMark, s => some (hasMark s)
  | maxLength limit, s => some (s.length ≤ limit)
  | minLength limit, s => some (limit ≤ s.length)
  | maxLineLength limit, s => some (Text.linesFit limit s)
  | leadingBlank, s => if s.isEmpty then none else some (leadingBlank? s).isSome
  | letterCase cases, s => if s.isEmpty then none else some (cases.any (·.accepts s))
  | enum values, s => if s.isEmpty then none else some (values.contains s)

/-- The first conversion, to a case that is not forbidden, whose outcome is in no forbidden case;
the value itself if there is none. -/
def avoidCases (forbidden : List LetterCase) (s : Text) : Text :=
  let outcomes := (LetterCase.all.filter fun c => !forbidden.contains c).map (·.convert s)
  (outcomes.find? fun t => !forbidden.any (·.accepts t)).getD s

/-- How a value that does not comply is changed, for the tests that repair. -/
def repair? : Test → Applicability → Option (Text → Except Text.InvalidWidth Text)
  | empty, .always => some fun _ => .ok []
  | trim, .always => some fun s => .ok (Text.strip s)
  | fullStop stop, .always => some fun s => .ok (s ++ stop)
  | fullStop stop, .never => some fun s => .ok (removeStops stop s)
  | exclamationMark, a => some fun s => .ok (setMark (a == .always) s)
  | maxLength limit, .always => some fun s => .ok (Text.truncate s limit)
  | maxLineLength limit, .always => if limit < 1 then none else some fun s => Text.wrap s limit
  | leadingBlank, .always => some fun s => .ok ('\n' :: s)
  | leadingBlank, .never => some fun s => .ok (s.drop ((leadingBlank? s).getD []).length)
  | letterCase cases, .always => some fun s =>
      .ok (match cases with
        | [] => s
        | c :: _ => c.convert s)
  | letterCase cases, .never => some fun s => .ok (avoidCases cases s)
  | _, _ => none

def kind : Test → Kind
  | empty => .empty
  | trim => .trim
  | fullStop _ => .fullStop
  | exclamationMark => .exclamationMark
  | maxLength _ => .maxLength
  | minLength _ => .minLength
  | maxLineLength _ => .maxLineLength
  | leadingBlank => .leadingBlank
  | letterCase _ => .letterCase
  | enum _ => .enum

/-- What a rule with the test demands or forbids, as the end of a sentence. Each case is named in
its own spelling; a limit with too many digits cannot be named. -/
def predicate : Test → Except Text.DigitExcess Text
  | empty => .ok "be empty".toList
  | trim => .ok "be trimmed of surrounding whitespace".toList
  | fullStop stop => .ok <|
    match symbolName? stop with
    | some name => "end with ".toList ++ Text.indefiniteArticle name ++ [' '] ++ name
    | none => "end with ".toList ++ Text.quoted stop
  | exclamationMark => .ok "have an exclamation mark before the colon".toList
  | maxLength limit => do
    return "be ".toList ++ (← Text.ofInt limit) ++ " characters or fewer".toList
  | minLength limit => do
    return "be at least ".toList ++ (← Text.ofInt limit) ++ " characters long".toList
  | maxLineLength limit => do
    return "wrap lines at ".toList ++ (← Text.ofInt limit) ++ " characters".toList
  | leadingBlank => .ok "begin with a blank line".toList
  | letterCase cases => .ok <|
    match cases.map fun c => c.convert c.name with
    | [name] => "be in ".toList ++ name
    | names => "be in either ".toList ++ Text.listOr names
  | enum values => .ok ("be one of ".toList ++ Text.listOr (values.map Text.quoted))

def value : Test → Value
  | fullStop stop => .text stop
  | maxLength limit | minLength limit | maxLineLength limit => .int limit
  | letterCase cases => Value.ofTexts (cases.map LetterCase.name)
  | enum values => Value.ofTexts values
  | empty | trim | exclamationMark | leadingBlank => .null

end Test

end CommitStandard
