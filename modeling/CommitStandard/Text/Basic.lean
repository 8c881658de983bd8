/-!
# Text

Text is a list of characters, so a length counts characters and a cut never splits one. This
module holds the operations that do not look at character classes: joining, and splitting at a
character or at a separator text. Joining undoes both kinds of splitting (`join_pieces`,
`join_splitOn`).
-/
namespace CommitStandard

/-- Text as a sequence of characters. -/
abbrev Text := List Char

namespace Text

/-- Whether a text comes before another or is the same, by code points. -/
def le : Text → Text → Bool
  | [], _ => true
  | _ :: _, [] => false
  | a :: s, b :: t => a < b || (a = b && le s t)

/-- The texts in order, with `sep` between neighbours. -/
def join (sep : Text) : List Text → Text
  | [] => []
  | [p] => p
  | p :: q :: ps => p ++ sep ++ join sep (q :: ps)

@[simp] theorem join_nil (sep : Text) : join sep [] = [] := rfl

@[simp] theorem join_singleton (sep p : Text) : join sep [p] = p := rfl

theorem join_cons (sep p : Text) {ps : List Text} (h : ps ≠ []) :
    join sep (p :: ps) = p ++ sep ++ join sep ps := by
  cases ps with
  | nil => exact absurd rfl h
  | cons q qs => rfl

/-- Puts a character in front of the first text. -/
def consHead (c : Char) : List Text → List Text
  | [] => [[c]]
  | p :: ps => (c :: p) :: ps

theorem join_consHead (sep : Text) (c : Char) {ps : List Text} (h : ps ≠ []) :
    join sep (consHead c ps) = c :: join sep ps := by
  match ps with
  | [] => exact absurd rfl h
  | [p] => rfl
  | p :: q :: qs => rfl

theorem consHead_ne_nil (c : Char) (ps : List Text) : consHead c ps ≠ [] := by
  cases ps <;> simp [consHead]

/-- The pieces between the occurrences of a character; there is always at least one. -/
def pieces (sep : Char) : Text → List Text
  | [] => [[]]
  | c :: rest => if c = sep then [] :: pieces sep rest else consHead c (pieces sep rest)

theorem pieces_ne_nil (sep : Char) (s : Text) : pieces sep s ≠ [] := by
  cases s with
  | nil => simp [pieces]
  | cons c rest =>
    unfold pieces
    split
    · simp
    · exact consHead_ne_nil _ _

/-- Nothing but the separators is lost. -/
theorem join_pieces (sep : Char) (s : Text) : join [sep] (pieces sep s) = s := by
  induction s with
  | nil => rfl
  | cons c rest ih =>
    unfold pieces
    split
    · rename_i h
      rw [join_cons _ _ (pieces_ne_nil sep rest), ih, h]
      rfl
    · rw [join_consHead _ _ (pieces_ne_nil sep rest), ih]

/-- The lines of a text: its pieces between line feeds. -/
abbrev lines (s : Text) : List Text := pieces '\n' s

/-- The text with a line feed for every carriage return and line feed. -/
def unixLines : Text → Text
  | [] => []
  | '\r' :: '\n' :: rest => '\n' :: unixLines rest
  | c :: rest => c :: unixLines rest

/-- The text with every line break written as a line feed, also one that is a carriage return
alone. -/
def plainLines : Text → Text
  | [] => []
  | '\r' :: '\n' :: rest => '\n' :: plainLines rest
  | '\r' :: rest => '\n' :: plainLines rest
  | c :: rest => c :: plainLines rest

/-- Splits at the occurrences of `sep`, found from left to right without overlap, after
skipping the given number of characters that belong to the occurrence last found. -/
def splitFrom (sep : Text) : Nat → Text → List Text
  | _, [] => [[]]
  | skip + 1, _ :: rest => splitFrom sep skip rest
  | 0, c :: rest =>
    if sep.isPrefixOf (c :: rest) then [] :: splitFrom sep (sep.length - 1) rest
    else consHead c (splitFrom sep 0 rest)

/-- The pieces between the occurrences of a non-empty separator, found from left to right
without overlap. -/
def splitOn (sep s : Text) : List Text := splitFrom sep 0 s

theorem splitFrom_ne_nil (sep : Text) (skip : Nat) (s : Text) : splitFrom sep skip s ≠ [] := by
  induction s generalizing skip with
  | nil => cases skip <;> simp [splitFrom]
  | cons c rest ih =>
    cases skip with
    | succ skip => exact ih skip
    | zero =>
      unfold splitFrom
      split
      · simp
      · exact consHead_ne_nil _ _

theorem join_splitFrom (sep : Text) (skip : Nat) (s : Text) (h : sep ≠ []) :
    join sep (splitFrom sep skip s) = s.drop skip := by
  induction s generalizing skip with
  | nil => cases skip <;> simp [splitFrom]
  | cons c rest ih =>
    cases skip with
    | succ skip => simpa [splitFrom] using ih skip
    | zero =>
      unfold splitFrom
      split
      · rename_i hp
        rw [join_cons _ _ (splitFrom_ne_nil _ _ _), ih]
        obtain ⟨t, ht⟩ := List.isPrefixOf_iff_prefix.1 hp
        cases sep with
        | nil => exact absurd rfl h
        | cons d sep =>
          simp only [List.cons_append, List.cons.injEq] at ht
          obtain ⟨rfl, rfl⟩ := ht
          simp
      · rw [join_consHead _ _ (splitFrom_ne_nil _ _ _), ih]
        simp

/-- Nothing but the separators is lost. -/
theorem join_splitOn {sep : Text} (s : Text) (h : sep ≠ []) : join sep (splitOn sep s) = s :=
  join_splitFrom sep 0 s h

/-- What stands before and after the first occurrence of `sep`. -/
def cutAt (sep : Text) : Text → Option (Text × Text)
  | [] => if sep.isEmpty then some ([], []) else none
  | c :: rest =>
    if sep.isPrefixOf (c :: rest) then some ([], (c :: rest).drop sep.length)
    else (cutAt sep rest).map fun (before, after) => (c :: before, after)

/-- Whether `part` occurs in the text. -/
def contains (part s : Text) : Bool := (cutAt part s).isSome

/-- The text without the longest run of such characters at its end. -/
def dropEnd (p : Char → Bool) (s : Text) : Text := (s.reverse.dropWhile p).reverse

/-- The text without the longest runs of such characters at both ends. -/
def trim (p : Char → Bool) (s : Text) : Text := dropEnd p (s.dropWhile p)

@[simp] theorem trim_nil (p : Char → Bool) : trim p [] = [] := rfl

/-- Pads the text with spaces to at least the given number of characters. -/
def padTo (width : Nat) (s : Text) : Text := s ++ List.replicate (width - s.length) ' '

end Text

end CommitStandard
