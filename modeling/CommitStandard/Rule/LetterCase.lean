import CommitStandard.Text.Words

/-!
# Letter cases

The eight ways of writing that a rule can ask for. Each has a test, `LetterCase.accepts`, and a
conversion, `LetterCase.convert`. The tests for the joined cases look at ASCII letters and digits
only; the conversions take a text apart into words first.
-/
namespace CommitStandard

inductive LetterCase where
  | lower
  | upper
  | camel
  | kebab
  | pascal
  | sentence
  | snake
  | start
deriving DecidableEq, Repr

namespace LetterCase

def name : LetterCase → Text
  | lower => "lower-case".toList
  | upper => "upper-case".toList
  | camel => "camel-case".toList
  | kebab => "kebab-case".toList
  | pascal => "pascal-case".toList
  | sentence => "sentence-case".toList
  | snake => "snake-case".toList
  | start => "start-case".toList

/-- Every case, in the order in which replacements are tried. -/
def all : List LetterCase := [lower, upper, camel, kebab, pascal, sentence, snake, start]

def ofName? (name : Text) : Option LetterCase := all.find? fun c => c.name == name

/-- A word with a capital first letter and the rest in lower case. -/
def titled (word : Text) : Text := Text.capitalize (Text.lower word)

def convert : LetterCase → Text → Text
  | lower, s => Text.lower s
  | upper, s => Text.upper s
  | camel, s =>
    match Text.words s with
    | [] => s
    | w :: ws => Text.lower w ++ (ws.map titled).flatten
  | kebab, s => Text.kebab s
  | pascal, s => ((Text.words s).map titled).flatten
  | sentence, s => Text.capitalize (Text.lower (Text.join [' '] (Text.words s)))
  | snake, s => Text.lower (Text.join ['_'] (Text.words s))
  | start, s => Text.join [' '] ((Text.words s).map titled)

/-- Whether the first character passes the first test and all others the second. -/
def headed (first rest : Char → Bool) : Text → Bool
  | [] => false
  | c :: cs => first c && cs.all rest

def isPlain (c : Char) : Bool := Text.asciiLower c || Text.asciiDigit c

/-- Non-empty runs of lower-case letters and digits with single separators between them, of
which the first begins with a letter. -/
def isJoined (sep : Char) (s : Text) : Bool :=
  match Text.pieces sep s with
  | [] => false
  | w :: ws => headed Text.asciiLower isPlain w && ws.all fun v => headed isPlain isPlain v

/-- Whether a word begins with a character that is its own upper-case form. -/
def isTitled : Text → Bool
  | [] => false
  | c :: _ => Text.upperChar c == [c]

/-- Whether a text is written in a case. The empty text is written in each. -/
def accepts (style : LetterCase) (s : Text) : Bool :=
  s.isEmpty ||
    match style with
    | lower => s == Text.lower s
    | upper => s == Text.upper s
    | camel => headed Text.asciiLower Text.asciiAlphanumeric s
    | kebab => isJoined '-' s
    | pascal => headed Text.asciiUpper Text.asciiAlphanumeric s
    | sentence => headed Text.asciiUpper (fun c => c != '.' && c != '!' && c != '?') s
    | snake => isJoined '_' s
    | start => (Text.pieces ' ' s).all isTitled

end LetterCase

end CommitStandard
