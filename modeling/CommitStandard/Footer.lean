import CommitStandard.Header
import CommitStandard.Text.Words

/-!
# Footers

A footer is a line such as `Signed-off-by: name` at the end of a commit message. `Footer.parse`
reads a line and `Footer.render` writes one. Tokens are kept in one spelling, which
`normalizeToken` gives; a footer may have no text after the colon.
-/
namespace CommitStandard

/-- A token and its text. -/
structure Footer where
  token : Text
  text : Text
  style : Style

/-- A line that is no footer. -/
structure InvalidFooter where
  line : Text
deriving DecidableEq, Repr

def InvalidFooter.message (e : InvalidFooter) : Text :=
  "[Invalid footer] ".toList ++ Text.quoted e.line ++
    " does not conform to \"<Some-token>: <text content>\"".toList

namespace Footer

def breakingToken : Text := "BREAKING CHANGE".toList

def breakingTokens : List Text := [breakingToken, "BREAKING-CHANGE".toList]

/-- A character of an ordinary token. -/
def isTokenChar (c : Char) : Bool := Text.isWord c || c = '-'

/-- The one spelling of a token: words joined by hyphens with a capital first letter. The tokens
of breaking changes, and tokens with other characters in them, stay as they are. -/
def normalizeToken (token : Text) : Text :=
  let t := Text.strip token
  if breakingTokens.contains t || t.isEmpty || !t.all isTokenChar then t
  else Text.sentenceKebab t

/-- A footer without paint. -/
def make (token text : Text) : Footer := ⟨normalizeToken token, Text.strip text, .plain⟩

/-- Sets the token, unless the new one is blank. -/
def setToken (f : Footer) (value : Text) : Footer :=
  if Text.isBlankText value then f else { f with token := normalizeToken value }

def setText (f : Footer) (value : Text) : Footer := { f with text := Text.strip value }

def isBreaking (f : Footer) : Bool := breakingTokens.contains f.token

/-- Whether a token, in any spelling, is the footer's. -/
def hasToken (f : Footer) (token : Text) : Bool := f.token == normalizeToken token

/-- Whether two footers say the same. -/
def sameAs (f g : Footer) : Bool := f.token == g.token && f.text == g.text

/-- The line without paint. -/
def plain (f : Footer) : Text :=
  if f.text.isEmpty then f.token ++ [':'] else f.token ++ ": ".toList ++ f.text

def render (f : Footer) : Text := f.style.apply f.plain

/-- Takes a token and its colon from the start of a line. -/
def takeToken? (s : Text) : Option (Text × Text) :=
  if (breakingToken ++ [':']).isPrefixOf s then
    some (breakingToken, s.drop (breakingToken.length + 1))
  else
    match s.takeWhile isTokenChar, s.dropWhile isTokenChar with
    | c :: token, ':' :: rest => some (c :: token, rest)
    | _, _ => none

/-- The text after the colon: nothing, or a space and the rest of one line. -/
def takeText? : Text → Option Text
  | [] => some []
  | ' ' :: text => if '\n' ∈ text then none else some text
  | _ => none

/-- Reads a line, without the blanks around it. -/
def parse (line : Text) : Except InvalidFooter Footer :=
  let footer? := do
    let (token, rest) ← takeToken? (Text.strip line)
    return make token (← takeText? rest)
  match footer? with
  | some footer => .ok footer
  | none => .error ⟨line⟩

def parseAll (lines : List Text) : Except InvalidFooter (List Footer) := lines.mapM parse

end Footer

end CommitStandard
