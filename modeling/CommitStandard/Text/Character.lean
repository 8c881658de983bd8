import CommitStandard.Text.Basic
import CommitStandard.Text.Table.Digit
import CommitStandard.Text.Table.Mark
import CommitStandard.Text.Table.Unprintable
import CommitStandard.Text.Table.Word

/-!
# Classes of characters

Blank characters are those that surround words: the characters with the property White_Space
and the four information separators. Word characters are letters, numerals and the underscore.
Both classes go beyond ASCII; `asciiBlank` is the narrow class that line filling breaks at.
-/
namespace CommitStandard.Text

/-- Whether a number lies in one of the closed ranges, given in increasing order. -/
def inRanges (n : Nat) : List (Nat × Nat) → Bool
  | [] => false
  | (first, last) :: ranges => first ≤ n && (n ≤ last || inRanges n ranges)

/-- Blank characters: white space and the information separators. -/
def isBlank (c : Char) : Bool :=
  inRanges c.toNat
    [(0x09, 0x0d), (0x1c, 0x20), (0x85, 0x85), (0xa0, 0xa0), (0x1680, 0x1680), (0x2000, 0x200a),
     (0x2028, 0x2029), (0x202f, 0x202f), (0x205f, 0x205f), (0x3000, 0x3000)]

/-- The space, the tab, and the line and page breaks of ASCII. -/
def asciiBlank (c : Char) : Bool := c = ' ' || ('\t' ≤ c && c ≤ '\r')

def asciiLower (c : Char) : Bool := 'a' ≤ c && c ≤ 'z'

def asciiUpper (c : Char) : Bool := 'A' ≤ c && c ≤ 'Z'

def asciiLetter (c : Char) : Bool := asciiLower c || asciiUpper c

def asciiDigit (c : Char) : Bool := '0' ≤ c && c ≤ '9'

def asciiAlphanumeric (c : Char) : Bool := asciiLetter c || asciiDigit c

/-- A decimal digit of any script. -/
def isDigit (c : Char) : Bool :=
  if c.toNat < 128 then asciiDigit c else inRanges c.toNat Table.digit

/-- A letter, a numeral or the underscore. -/
def isWord (c : Char) : Bool :=
  if c.toNat < 128 then asciiAlphanumeric c || c = '_' else inRanges c.toNat Table.word

/-- A nonspacing or enclosing mark, drawn over the character before it. -/
def isMark (c : Char) : Bool := inRanges c.toNat Table.mark

/-- A character with a visible form, or the space. -/
def isPrintable (c : Char) : Bool :=
  if c.toNat < 128 then ' ' ≤ c && c ≤ '~' else !inRanges c.toNat Table.unprintable

/-- The text without the blank characters at both ends. -/
def strip (s : Text) : Text := trim isBlank s

@[simp] theorem strip_nil : strip [] = [] := rfl

/-- The text without the blank characters at its end. -/
def stripEnd (s : Text) : Text := dropEnd isBlank s

/-- Whether the text has no character other than blank ones. -/
def isBlankText (s : Text) : Bool := s.all isBlank

end CommitStandard.Text
