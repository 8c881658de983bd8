import CommitStandard.Text.Casing
import CommitStandard.Text.Table.Emoji

/-!
# Marked-up text

Tags between brackets set the style of printed text: `[red]` opens a style, `[/red]` closes it and
`[/]` closes the one opened last. A backslash before a tag makes it plain text. Emoji are written as
codes: the name of one between two colons, such as `:bug:`. The name can be followed by `-emoji` or
`-text`, which asks for the coloured or the plain form. `Markup.shown?` is what can be seen of a
marked-up text: no tags, and emoji in the place of their codes. It is absent if a tag closes
nothing. A text without brackets is only searched for codes (`shown?_of_notMem`).
-/
namespace CommitStandard

namespace Text

/-- The emoji with a name, in any letter case. -/
def emoji? (name : Text) : Option Text :=
  (Table.emoji.lookup (String.ofList (lower name))).map String.toList

/-- What a code stands for, given without its colons. -/
def ofEmojiCode? (code : Text) : Option Text :=
  let emojiBefore := fun (ending : Text) (variant : Char) =>
    (emoji? (code.take (code.length - ending.length))).map fun e => e ++ [variant]
  let coloured := "-emoji".toList
  let plain := "-text".toList
  if coloured.isSuffixOf code then emojiBefore coloured '\ufe0f'
  else if plain.isSuffixOf code then emojiBefore plain '\ufe0e'
  else emoji? code

/-- Puts pieces between colons together again, with emoji in the place of codes. A piece is a code
if a colon follows it and there are no blanks in it. A code that stands for nothing stays. -/
def joinCodes : List Text → Text
  | [] => []
  | [p] => p
  | [p, q] => p ++ ':' :: q
  | p :: code :: q :: rest =>
    if code.any isBlank then p ++ ':' :: joinCodes (code :: q :: rest)
    else p ++ (ofEmojiCode? code).getD (':' :: (code ++ [':'])) ++ joinCodes (q :: rest)

/-- The text with emoji in the place of their codes. -/
def withEmoji (s : Text) : Text := joinCodes (pieces ':' s)

theorem pieces_of_notMem {sep : Char} {s : Text} (h : sep ∉ s) : pieces sep s = [s] := by
  induction s with
  | nil => rfl
  | cons c rest ih =>
    simp only [List.mem_cons, not_or] at h
    rw [pieces, if_neg (Ne.symm h.1), ih h.2]
    rfl

theorem withEmoji_of_notMem {s : Text} (h : ':' ∉ s) : withEmoji s = s := by
  rw [withEmoji, pieces_of_notMem h, joinCodes]

end Text

namespace Markup

/-- A piece of marked-up text. -/
inductive Piece where
  | plain (s : Text)
  | opening (name : Text)
  /-- Closes the style with the name, or the one opened last if the name is empty. -/
  | closing (name : Text)
deriving DecidableEq, Repr

def shortNames : List (String × String) :=
  [("b", "bold"), ("d", "dim"), ("i", "italic"), ("u", "underline"), ("uu", "underline2"),
   ("s", "strike"), ("c", "conceal"), ("r", "reverse"), ("o", "overline")]

def fullName (name : Text) : Text :=
  let name := Text.lower (Text.strip name)
  ((shortNames.lookup (String.ofList name)).map String.toList).getD name

/-- The piece that the inside of a tag stands for; what follows an equals sign does not matter. -/
def tagPiece (inside : Text) : Piece :=
  match inside.takeWhile (· ≠ '=') with
  | '/' :: name => .closing (fullName name)
  | name => .opening (fullName name)

/-- Whether the inside of a tag can begin with the character. -/
def startsTag (c : Char) : Bool := Text.asciiLower c || c = '#' || c = '/' || c = '@'

/-- Takes a tag and gives its inside. -/
def takeTag? (s : Text) : Option (Text × Text) :=
  match s with
  | '[' :: rest =>
    let ends := fun c => c = '[' || c = ']'
    match rest.takeWhile (!ends ·), rest.dropWhile (!ends ·) with
    | c :: inside, ']' :: left => if startsTag c then some (c :: inside, left) else none
    | _, _ => none
  | _ => none

/-- The text without the backslashes that stand right before opening brackets. -/
def withoutEscapes : Text → Text
  | '\\' :: '[' :: rest => '[' :: withoutEscapes rest
  | c :: rest => c :: withoutEscapes rest
  | [] => []

/-- A plain piece, unless there is nothing in it. -/
def plainPiece (s : Text) : List Piece :=
  if s.isEmpty then [] else [.plain (withoutEscapes s)]

/-- The pieces of a text, given the plain text read since the last tag. Of the backslashes before a
tag, two stand for one, and an odd one makes the tag plain text. -/
def piecesFrom : Nat → Text → Text → List Piece
  | 0, plain, s => plainPiece (plain ++ s)
  | fuel + 1, plain, s =>
    match s with
    | [] => plainPiece plain
    | c :: rest =>
      let slashes := s.takeWhile (· = '\\')
      match takeTag? (s.drop slashes.length) with
      | some (inside, left) =>
        let tag :=
          if slashes.length % 2 = 0 then tagPiece inside else .plain ('[' :: inside ++ [']'])
        plainPiece plain ++ plainPiece (slashes.take (slashes.length / 2)) ++
          tag :: piecesFrom fuel [] left
      | none =>
        if slashes.isEmpty then piecesFrom fuel (plain ++ [c]) rest
        else piecesFrom fuel (plain ++ slashes) (s.drop slashes.length)

def pieces (s : Text) : List Piece := piecesFrom s.length [] s

/-- What can be seen of pieces under open styles, of which the last one comes first. -/
def shownUnder? (styles : List Text) : List Piece → Option Text
  | [] => some []
  | .plain s :: rest => (shownUnder? styles rest).map (Text.withEmoji s ++ ·)
  | .opening name :: rest => shownUnder? (name :: styles) rest
  | .closing name :: rest =>
    if name.isEmpty then
      match styles with
      | [] => none
      | _ :: styles => shownUnder? styles rest
    else if styles.contains name then shownUnder? (styles.erase name) rest
    else none

/-- What can be seen of a marked-up text. -/
def shown? (s : Text) : Option Text :=
  if '[' ∈ s then shownUnder? [] (pieces s) else some (Text.withEmoji s)

theorem shown?_of_notMem {s : Text} (h : '[' ∉ s) : shown? s = some (Text.withEmoji s) :=
  if_neg h

def styled (style : String) (s : Text) : Text :=
  '[' :: (style.toList ++ ']' :: s ++ "[/".toList ++ style.toList ++ [']'])

end Markup

end CommitStandard
