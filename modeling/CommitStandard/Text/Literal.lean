import CommitStandard.Text.Character

/-!
# Numerals and literals

How whole numbers and texts are written out. A numeral has decimal digits, and only up to a limit:
`ofInt` refuses a number that has more, whatever it is written for (`ofInt_eq_ok_iff`). A text as
a literal stands between quotation marks, with escapes for the marks and for what cannot be seen.
Numerals that are written by hand may group their digits.
-/
namespace CommitStandard.Text

/-- How many decimal digits a whole number may have where it is written as text or read from
it. -/
def digitLimit : Nat := 4300

/-- A whole number has too many digits to be written. -/
structure DigitExcess where
deriving DecidableEq, Repr

/-- The decimal numeral of a natural number. -/
def ofNat (n : Nat) : Text := Nat.toDigits 10 n

/-- The decimal numeral of an integer, unless it has too many digits. -/
def ofInt (n : Int) : Except DigitExcess Text :=
  let digits := ofNat n.natAbs
  if digits.length ≤ digitLimit then .ok (if n < 0 then '-' :: digits else digits)
  else .error {}

def DigitExcess.message (_ : DigitExcess) : Text :=
  "Exceeds the limit (".toList ++ Text.ofNat digitLimit ++
    " digits) for integer string conversion; ".toList ++
    "use sys.set_int_max_str_digits() to increase the limit".toList

/-- The least natural number that has too many digits. It is irreducible so that nothing tries to
count up to it. -/
@[irreducible]
def unwritable : Nat := Nat.pow 10 digitLimit

theorem unwritable_pos : 0 < unwritable := by
  unfold unwritable
  generalize digitLimit = k
  exact Nat.pow_pos (by decide)

theorem length_ofNat_le_iff (n : Nat) : (ofNat n).length ≤ digitLimit ↔ n < unwritable := by
  have hpos : 0 < digitLimit := by decide
  unfold unwritable
  generalize digitLimit = k at hpos ⊢
  exact Nat.length_toDigits_le_iff (by decide) hpos

theorem exists_ofInt_iff (n : Int) : (∃ s, ofInt n = .ok s) ↔ n.natAbs < unwritable := by
  rw [← length_ofNat_le_iff]
  unfold ofInt
  dsimp only
  by_cases h : (ofNat n.natAbs).length ≤ digitLimit <;> simp [h]

/-- The decimal numeral of a natural number with at least so many digits. -/
def padded (width n : Nat) : Text :=
  let digits := ofNat n
  List.replicate (width - digits.length) '0' ++ digits

/-- A hexadecimal numeral of at least the given number of digits. -/
def hex (width n : Nat) : Text :=
  let digits := Nat.toDigits 16 n
  List.replicate (width - digits.length) '0' ++ digits

def digitsValue (digits : Text) : Nat :=
  digits.foldl (fun n c => n * 10 + (c.toNat - '0'.toNat)) 0

/-- Digits that may be grouped by single underscores, as a number. -/
def groupedDigits? (s : Text) : Option Nat :=
  let groups := pieces '_' s
  if (groups.all fun g => !g.isEmpty && g.all asciiDigit) && groups.flatten.length ≤ digitLimit then
    some (digitsValue groups.flatten)
  else none

/-- Whether a text begins with a minus sign, and what follows a sign. -/
def splitSign : Text → Bool × Text
  | '-' :: rest => (true, rest)
  | '+' :: rest => (false, rest)
  | s => (false, s)

/-- A whole number with an optional sign, and blanks around it. -/
def toInt? (s : Text) : Option Int :=
  let (negative, digits) := splitSign (strip s)
  (groupedDigits? digits).map fun n => if negative then -(n : Int) else n

/-- A character inside quotation marks of the given kind: backslash and the mark itself take a
backslash, and what has no visible form is written by name or number. -/
def escaped (mark c : Char) : Text :=
  if c = '\\' || c = mark then ['\\', c]
  else if c = '\n' then ['\\', 'n']
  else if c = '\r' then ['\\', 'r']
  else if c = '\t' then ['\\', 't']
  else if isPrintable c then [c]
  else if c.toNat < 0x100 then '\\' :: 'x' :: hex 2 c.toNat
  else if c.toNat < 0x10000 then '\\' :: 'u' :: hex 4 c.toNat
  else '\\' :: 'U' :: hex 8 c.toNat

/-- A text as a literal. The marks are single unless the text has single ones and no double
ones. -/
def literal (s : Text) : Text :=
  let mark := if '\x27' ∈ s ∧ '"' ∉ s then '"' else '\x27'
  mark :: (s.flatMap (escaped mark) ++ [mark])

end CommitStandard.Text
