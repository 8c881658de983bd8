import CommitStandard.Message.Basic

/-!
# Reading commit messages

The first line is the header. What follows falls into paragraphs at blank lines, that is lines of
spaces and tabs only. The paragraphs at the end that consist of footer lines are the footers, and
what is left is the body. The main definition is `Message.parse`.
-/
namespace CommitStandard.Message

/-- A line of spaces and tabs only. -/
def isBlankLine (line : Text) : Bool := line.all fun c => c = ' ' || c = '\t'

/-- Groups lines into paragraphs. A blank line ends the paragraph before it, unless it is the
last line, which belongs to a paragraph whatever it is. `current` holds the lines read of the
present paragraph, the latest first. -/
def groupFrom (current : List Text) : List Text → List (List Text)
  | [] => [current.reverse]
  | line :: rest =>
    if isBlankLine line && !rest.isEmpty then
      if current.isEmpty then groupFrom [] rest else current.reverse :: groupFrom [] rest
    else groupFrom (line :: current) rest

/-- The paragraphs of a text, as lists of lines. The first line belongs to the first paragraph
whatever it is. -/
def groupLines : List Text → List (List Text)
  | [] => []
  | line :: rest => groupFrom [line] rest

/-- Whether a paragraph has nothing but blanks. -/
def isBlankParagraph (paragraph : List Text) : Bool := paragraph.all Text.isBlankText

/-- The paragraphs of a text that have more than blanks in them. -/
def paragraphsOf (s : Text) : List (List Text) :=
  (groupLines (Text.lines (Text.trim (· = '\n') s))).filter fun p => !isBlankParagraph p

/-- Splits paragraphs into those of the body and the footers at the end. The paragraphs are given
last first, the footers found so far in order. -/
def takeFooters (found : List Footer) : List (List Text) → List (List Text) × List Footer
  | [] => ([], found)
  | p :: ps =>
    match Footer.parseAll p with
    | .ok footers => takeFooters (footers ++ found) ps
    | .error _ => ((p :: ps).reverse, found)

/-- Splits paragraphs into those of the body and the footers at the end. -/
def splitFooters (ps : List (List Text)) : List (List Text) × List Footer :=
  takeFooters [] ps.reverse

/-- The text of paragraphs, with a blank line between them. -/
def joinParagraphs (ps : List (List Text)) : Text :=
  Text.join "\n\n".toList (ps.map (Text.join ['\n']))

/-- The first line of a message text. -/
def headerLine (s : Text) : Text := (Text.trim (· = '\n') (Text.unixLines s)).takeWhile (· ≠ '\n')

/-- What follows the first line of a message text. -/
def afterHeader (s : Text) : Text :=
  ((Text.trim (· = '\n') (Text.unixLines s)).dropWhile (· ≠ '\n')).drop 1

def parse (options : HeaderOptions) (s : Text) : Except ScopeError Message := do
  let header ← Header.parse options (headerLine s)
  let (body, footers) := splitFooters (paragraphsOf (afterHeader s))
  return make header (joinParagraphs body) footers

end CommitStandard.Message
