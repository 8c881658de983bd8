import CommitStandard.Text.Casing
import CommitStandard.Text.Template

/-!
# Words and listings

A text falls into words at blanks, hyphens and underscores, at camel humps, and between letters
and digits. Rejoining the words gives the kebab form that footer tokens are written in. Several
items are named in one sentence with a conjunction before the last.
-/
namespace CommitStandard.Text

/-- Whether a new word starts between two neighbouring characters. -/
def isBoundary (a b : Char) : Bool :=
  (asciiLower a && asciiUpper b) || (asciiLetter a && isDigit b) || (isDigit a && asciiLetter b)

/-- Writes the delimiter between the two characters of every boundary. The pairs are taken from
left to right and do not overlap: the second character of one starts no other. -/
def separate (delimiter : Text) : Text → Text
  | [] => []
  | [a] => [a]
  | a :: b :: rest =>
    if isBoundary a b then a :: (delimiter ++ b :: separate delimiter rest)
    else a :: separate delimiter (b :: rest)

/-- The characters that stand between words. -/
def isDelimiter (c : Char) : Bool := isBlank c || c = '-' || c = '_'

/-- The replacement of a run of delimiters, if there is one. -/
def replaced (replace : Text → Text) (run : Text) : Text :=
  if run.isEmpty then [] else replace run

/-- Replaces every run of delimiters; `run` is what came of one so far, in reverse. -/
def replaceRunsFrom (replace : Text → Text) (run : Text) : Text → Text
  | [] => replaced replace run.reverse
  | c :: rest =>
    if isDelimiter c then replaceRunsFrom replace (c :: run) rest
    else replaced replace run.reverse ++ c :: replaceRunsFrom replace [] rest

def replaceRuns (replace : Text → Text) (s : Text) : Text := replaceRunsFrom replace [] s

/-- Splits camel humps and runs of letters and digits by a delimiter, and then replaces every run
of delimiters by it. There the delimiter is read as a template. -/
def normalizeDelimiters (delimiter s : Text) : Except TemplateFault Text := do
  let template ← Template.read delimiter
  return replaceRuns template.expand (separate delimiter s)

/-- The text with one space between words. -/
def spaced (s : Text) : Text := replaceRuns (fun _ => [' ']) (separate [' '] s)

theorem normalizeDelimiters_space (s : Text) : normalizeDelimiters [' '] s = .ok (spaced s) := by
  obtain ⟨template, hr, he⟩ := Template.expand_of_read (s := [' ']) (by simp)
  simp only [normalizeDelimiters, hr]
  show Except.ok (replaceRuns template.expand _) = _
  rw [funext he]
  rfl

def words (s : Text) : List Text :=
  (pieces ' ' (spaced s)).filter fun w => !w.isEmpty

/-- The words in lower case, joined by hyphens. -/
def kebab (s : Text) : Text := lower (join ['-'] (words s))

/-- The kebab form with a capital first letter, such as Signed-off-by. -/
def sentenceKebab (s : Text) : Text := capitalize (kebab s)

/-- The items separated by commas, the last one by the conjunction: "a, b and c". -/
def enumerate (conjunction : Text) (items : List Text) : Text :=
  match items.reverse with
  | [] => []
  | [item] => item
  | last :: rest => join ", ".toList rest.reverse ++ [' '] ++ conjunction ++ [' '] ++ last

/-- The listing of items of which all hold. -/
def listAnd (items : List Text) : Text := enumerate "and".toList items

/-- The listing of items of which one holds. -/
def listOr (items : List Text) : Text := enumerate "or".toList items

def quoted (item : Text) : Text := "'".toList ++ item ++ "'".toList

/-- The indefinite article of a word: "an" before a vowel, and when there is no word. -/
def indefiniteArticle : Text → Text
  | [] => "an".toList
  | c :: _ => if contains (lower [c]) "aeiou".toList then "an".toList else "a".toList

end CommitStandard.Text
