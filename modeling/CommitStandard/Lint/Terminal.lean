import CommitStandard.Text.Cut
import CommitStandard.Text.Table.Wide

/-!
# Text on a terminal

How text comes out on a terminal without colours: escape sequences and control characters are not
shown, and tabs go to columns of eight. `highlight` writes the sequences that make a failing part
stand out.
-/
namespace CommitStandard.Terminal

/-- The character that begins an escape sequence. -/
def escape : Char := '\x1b'

/-- The text in bold underlined red. -/
def highlight (s : Text) : Text :=
  let code := fun n : String => escape :: '[' :: (n.toList ++ ['m'])
  code "31" ++ code "1" ++ code "4" ++ s ++ code "0"

/-- Whether a character number lies between two others. -/
def between (first last : Nat) (c : Char) : Bool := first ≤ c.toNat && c.toNat ≤ last

/-- What follows a control sequence: parameters, intermediate characters and a final one. -/
def afterControl? (s : Text) : Option Text :=
  match (s.dropWhile (between 0x30 0x3f)).dropWhile (between 0x20 0x2f) with
  | c :: rest => if between 0x40 0x7e c then some rest else none
  | [] => none

/-- What follows a system command, which ends with an escaped backslash. -/
def afterCommand? (s : Text) : Option Text :=
  (Text.cutAt [escape, '\\'] s).bind fun (inside, rest) =>
    if '\n' ∈ inside then none else some rest

/-- What follows an escape sequence, given the text after the escape character. -/
def afterEscape? (s : Text) : Option Text :=
  match s with
  | c :: rest =>
    if between 0x30 0x3f c then some rest
    else
      match (if c = ']' then afterCommand? rest else none) with
      | some rest => some rest
      | none =>
        if c = '(' then some (rest.drop 1)
        else if c = '[' then afterControl? rest
        else if between 0x40 0x5f c then some rest
        else none
  | [] => none

/-- The text without escape sequences, as far as the fuel allows. -/
def withoutEscapesFrom : Nat → Text → Text
  | 0, s => s
  | _, [] => []
  | fuel + 1, c :: rest =>
    if c = escape then
      match afterEscape? rest with
      | some after => withoutEscapesFrom fuel after
      | none => c :: withoutEscapesFrom fuel rest
    else c :: withoutEscapesFrom fuel rest

def withoutEscapes (s : Text) : Text := withoutEscapesFrom s.length s

/-- Control characters that are not shown: bell, backspace and the breaks within a line. -/
def isHidden (c : Char) : Bool := between 0x07 0x08 c || between 0x0b 0x0d c

/-- Characters that take no column: marks, joiners, signs of direction and control characters. -/
def isZeroWidth (c : Char) : Bool :=
  Text.continuesCluster c || c.toNat < 0x20 || between 0x7f 0x9f c || between 0x200b 0x200f c ||
    between 0x2028 0x202e c || between 0x2060 0x2063 c

/-- How many columns a character takes. -/
def columns (c : Char) : Nat :=
  if isZeroWidth c then 0
  else if Text.inRanges c.toNat Text.Table.wide then 2
  else 1

/-- Writes tabs as spaces up to the next multiple of eight columns. -/
def levelTabs (column : Nat) : Text → Text
  | [] => []
  | c :: rest =>
    if c = '\t' then
      List.replicate (8 - column % 8) ' ' ++ levelTabs (column + (8 - column % 8)) rest
    else c :: levelTabs (column + columns c) rest

/-- A line as it comes out. -/
def shownLine (line : Text) : Text := levelTabs 0 (line.filter fun c => !isHidden c)

/-- The lines of plain text as they come out. -/
def printed (s : Text) : List Text := (Text.lines s).map shownLine

/-- A line is written over from its start after every carriage return: what is left of it. -/
def overwritten (line : Text) : Text := (line.reverse.takeWhile (· ≠ '\r')).reverse

/-- The text with escape sequences freed of them. -/
def decoded (s : Text) : Text :=
  Text.join ['\n'] <| (Text.lines s).map fun line =>
    (withoutEscapes (overwritten line)).filter fun c => !isHidden c

/-- The lines of text with escape sequences as they come out. -/
def printedDecoded (s : Text) : List Text := printed (decoded s)

end CommitStandard.Terminal
