import CommitStandard.Text.Character

/-!
# Cutting text to a width

A cut never separates a character from the marks and joiners that belong to it, so an emoji made
of several characters is kept or dropped as a whole. The main definition is `truncate`, which
cuts at the last safe position that is not beyond the width.
-/
namespace CommitStandard.Text

/-- The joiner that makes one emoji of two. -/
def zeroWidthJoiner : Char := '\u200d'

/-- Marks and joiners belong to the character before them. -/
def continuesCluster (c : Char) : Bool := isMark c || c = zeroWidthJoiner

/-- Whether the text may be cut before position `k`: the character there does not belong to the
one before it, and the one before it does not join them. -/
def isSafeCut (s : Text) (k : Nat) : Bool :=
  k == 0 || !(s[k]?.any continuesCluster || s[k - 1]? == some zeroWidthJoiner)

/-- The last safe position that is not beyond `k`. -/
def safeCut (s : Text) : Nat → Nat
  | 0 => 0
  | k + 1 => if isSafeCut s (k + 1) then k + 1 else safeCut s k

@[simp] theorem safeCut_zero (s : Text) : safeCut s 0 = 0 := rfl

theorem safeCut_le (s : Text) (k : Nat) : safeCut s k ≤ k := by
  induction k with
  | zero => simp
  | succ k ih =>
    unfold safeCut
    split <;> omega

theorem isSafeCut_safeCut (s : Text) (k : Nat) : isSafeCut s (safeCut s k) = true := by
  induction k with
  | zero => simp [isSafeCut]
  | succ k ih =>
    unfold safeCut
    split
    · assumption
    · exact ih

/-- Cuts a text to at most the given number of characters, at a safe position. -/
def cutTo (width : Nat) (s : Text) : Text :=
  if s.length ≤ width then s else s.take (safeCut s width)

theorem length_cutTo_le (width : Nat) (s : Text) : (cutTo width s).length ≤ width := by
  unfold cutTo
  split
  · assumption
  · have := safeCut_le s width
    simp only [List.length_take]
    omega

/-- Cuts a text to a width. A negative width drops that many characters from the end. -/
def truncate (s : Text) : Int → Text
  | .ofNat width => cutTo width s
  | .negSucc n => s.take (s.length - (n + 1))

end CommitStandard.Text
