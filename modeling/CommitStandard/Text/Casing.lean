import CommitStandard.Text.Character
import CommitStandard.Text.Table.Cased
import CommitStandard.Text.Table.Lower
import CommitStandard.Text.Table.Upper

/-!
# Letter case

The full case mappings of Unicode 14.0: a character may map to several, and a capital sigma is
lowered to its final form at the end of a word. On ASCII text both mappings act character by
character and keep the length.
-/
namespace CommitStandard.Text

/-- The image of a code point under the first row that holds it. -/
def shifted? (n : Nat) : List (Nat × Nat × Nat × Int) → Option Nat
  | [] => none
  | (first, last, step, offset) :: rows =>
    if first ≤ n && n ≤ last && (n - first) % step == 0 then some (n + offset).toNat
    else shifted? n rows

/-- The image of a character under a table of expansions, then under a table of shifts; a
character in neither table stands for itself. -/
def mapped (expansions : List (Nat × List Nat)) (rows : List (Nat × Nat × Nat × Int))
    (c : Char) : Text :=
  match expansions.lookup c.toNat with
  | some ns => ns.map Char.ofNat
  | none => match shifted? c.toNat rows with
    | some n => [Char.ofNat n]
    | none => [c]

/-- The lower-case form of a character on its own. -/
def lowerChar (c : Char) : Text :=
  if c.toNat < 128 then [if asciiUpper c then Char.ofNat (c.toNat + 32) else c]
  else mapped Table.lowerExpansion Table.lowerShift c

/-- The upper-case form of a character. -/
def upperChar (c : Char) : Text :=
  if c.toNat < 128 then [if asciiLower c then Char.ofNat (c.toNat - 32) else c]
  else mapped Table.upperExpansion Table.upperShift c

def upper (s : Text) : Text := s.flatMap upperChar

/-- Characters that casing looks through, such as the apostrophe. -/
def isIgnorable (c : Char) : Bool :=
  if c.toNat < 128 then c = '\x27' || c = '.' || c = ':' || c = '^' || c = '\x60'
  else inRanges c.toNat Table.ignorable

/-- Letters that have a case. -/
def isCased (c : Char) : Bool :=
  if c.toNat < 128 then asciiLetter c else inRanges c.toNat Table.cased

/-- Whether the next character that casing does not look through is a cased letter. -/
def startsCased : Text → Bool
  | [] => false
  | c :: rest => if isIgnorable c then startsCased rest else isCased c

/-- Lowers a text; `afterCased` says whether a cased letter came before it. -/
def lowerAfter (afterCased : Bool) : Text → Text
  | [] => []
  | c :: rest =>
    (if c = 'Σ' then [if afterCased && !startsCased rest then 'ς' else 'σ'] else lowerChar c) ++
      lowerAfter (if isIgnorable c then afterCased else isCased c) rest

/-- The lower-case form of a text. A capital sigma that ends a word becomes the final sigma. -/
def lower (s : Text) : Text := lowerAfter false s

/-- The text with its first character in upper case and the rest untouched. -/
def capitalize : Text → Text
  | [] => []
  | c :: rest => upperChar c ++ rest

@[simp] theorem upper_nil : upper [] = [] := rfl

@[simp] theorem lower_nil : lower [] = [] := rfl

end CommitStandard.Text
