import CommitStandard.Text.Literal

/-!
# Filling lines

Over-long lines are filled greedily: a line takes chunks, that is words and the blanks between
them, as long as they fit; a chunk longer than a whole line is broken where the line is full; a
blank chunk at the start of a further line or at the end of any line is dropped. Lines that fit
are left as they are. The main definition is `wrap`, which works paragraph by paragraph and
refuses a width that leaves no room.
-/
namespace CommitStandard.Text

/-- Writes tabs as spaces up to the next multiple of eight columns. -/
def expandTabs (column : Nat) : Text → Text
  | [] => []
  | c :: rest =>
    if c = '\t' then
      List.replicate (8 - column % 8) ' ' ++ expandTabs (column + (8 - column % 8)) rest
    else c :: expandTabs (if c = '\n' || c = '\r' then 0 else column + 1) rest

/-- Tabs are expanded, and every other blank of ASCII becomes a space. -/
def levelBlanks (line : Text) : Text :=
  (expandTabs 0 line).map fun c => if asciiBlank c then ' ' else c

/-- Puts a character in front of the first chunk if both are spaces or both are not, and in a
chunk of its own otherwise. -/
def consChunk (c : Char) : List Text → List Text
  | (d :: chunk) :: chunks =>
    if (c = ' ') = (d = ' ') then (c :: d :: chunk) :: chunks else [c] :: (d :: chunk) :: chunks
  | chunks => [c] :: chunks

/-- The longest runs of spaces and of other characters, in order. -/
def chunks : Text → List Text
  | [] => []
  | c :: rest => consChunk c (chunks rest)

theorem flatten_consChunk (c : Char) (cs : List Text) :
    (consChunk c cs).flatten = c :: cs.flatten := by
  unfold consChunk
  split
  · split <;> simp
  · simp

/-- The chunks make up the text. -/
theorem flatten_chunks (s : Text) : (chunks s).flatten = s := by
  induction s with
  | nil => rfl
  | cons c rest ih => rw [chunks, flatten_consChunk, ih]

/-- The chunks that still fit on a line of which some columns are used, and the others. -/
def fit (width : Nat) (used : Nat) : List Text → List Text × List Text
  | [] => ([], [])
  | c :: cs =>
    if used + c.length ≤ width then
      let (line, rest) := fit width (used + c.length) cs
      (c :: line, rest)
    else ([], c :: cs)

/-- The number of characters and of chunks that are still to be placed. -/
def pending (cs : List Text) : Nat := cs.flatten.length + cs.length

@[simp] theorem pending_nil : pending [] = 0 := rfl

@[simp] theorem pending_cons (c : Text) (cs : List Text) :
    pending (c :: cs) = c.length + 1 + pending cs := by
  simp [pending]
  omega

theorem pending_fit (width used : Nat) (cs : List Text) :
    pending (fit width used cs).1 + pending (fit width used cs).2 = pending cs := by
  induction cs generalizing used with
  | nil => rfl
  | cons c cs ih =>
    simp only [fit]
    split
    · have := ih (used + c.length)
      simp only [pending_cons]
      omega
    · simp only [pending_nil, Nat.zero_add]

/-- Breaks the first waiting chunk where the line is full, if no line can hold all of it. -/
def breakChunk (width : Nat) : List Text × List Text → List Text × List Text
  | (line, c :: cs) =>
    if width < c.length then
      let room := if width = 0 then 1 else width - line.flatten.length
      (line ++ [c.take room], c.drop room :: cs)
    else (line, c :: cs)
  | (line, []) => (line, [])

def dropFirstBlank : List Text → List Text
  | [] => []
  | c :: cs => if isBlankText c then cs else c :: cs

def dropLastBlank (line : List Text) : List Text := (dropFirstBlank line.reverse).reverse

/-- The chunks of the next line before its end is tidied, and those that are left. On a line
after the first, `started` holds and a leading blank is dropped. -/
def takeLine (width : Nat) (started : Bool) (cs : List Text) : List Text × List Text :=
  breakChunk width (fit width 0 (if started then dropFirstBlank cs else cs))

/-- Every line places something, so that filling ends. -/
theorem pending_takeLine_lt (width : Nat) (started : Bool) {cs : List Text} (h : cs ≠ []) :
    pending (takeLine width started cs).2 < pending cs := by
  have key : ∀ ds : List Text, ds ≠ [] →
      pending (breakChunk width (fit width 0 ds)).2 < pending ds := by
    intro ds hd
    have hp := pending_fit width 0 ds
    have hstep : pending (breakChunk width (fit width 0 ds)).2 ≤ pending (fit width 0 ds).2 := by
      obtain ⟨line, rest⟩ := fit width 0 ds
      cases rest with
      | nil => simp [breakChunk]
      | cons c cs =>
        unfold breakChunk
        dsimp only
        split
        · simp only [pending_cons, List.length_drop]
          omega
        · simp
    cases ds with
    | nil => exact absurd rfl hd
    | cons c cs =>
      by_cases hf : 0 + c.length ≤ width
      · simp only [fit, if_pos hf] at hp hstep ⊢
        simp only [pending_cons] at hp ⊢
        omega
      · simp only [fit, if_neg hf, breakChunk, List.flatten_nil, List.length_nil] at hp hstep ⊢
        rw [if_pos (by omega)]
        simp only [pending_cons, List.length_drop]
        split <;> omega
  unfold takeLine
  split
  · cases cs with
    | nil => exact absurd rfl h
    | cons c cs =>
      simp only [dropFirstBlank]
      split
      · by_cases hc : cs = []
        · subst hc
          simp [fit, breakChunk]
        · have := key cs hc
          rw [pending_cons]
          omega
      · exact key _ h
  · exact key cs h

def fillLines (width : Nat) (started : Bool) (cs : List Text) : List Text :=
  if h : cs = [] then []
  else
    let line := dropLastBlank (takeLine width started cs).1
    let rest := (takeLine width started cs).2
    have : pending rest < pending cs := pending_takeLine_lt width started h
    if line.isEmpty then fillLines width started rest
    else line.flatten :: fillLines width true rest
  termination_by pending cs

/-- A line that fits stays as it is; a longer one is filled anew. -/
def wrapLine (width : Nat) (line : Text) : List Text :=
  if line.length ≤ width then [line] else fillLines width false (chunks (levelBlanks line))

/-- Wraps the lines of every paragraph. -/
def wrapTo (width : Nat) (s : Text) : Text :=
  join "\n\n".toList <| (splitOn "\n\n".toList s).map fun paragraph =>
    join "\n".toList ((lines paragraph).flatMap (wrapLine width))

/-- Whether every line of a text has at most that many characters. -/
def linesFit (width : Int) (s : Text) : Bool := (lines s).all fun line => line.length ≤ width

/-- A width that leaves no room for a character. -/
structure InvalidWidth where
  /-- The width asked for. -/
  width : Int
deriving DecidableEq, Repr

/-- The wording of a refused width, or of the excess of digits that keeps it from being written. -/
def InvalidWidth.message (e : InvalidWidth) : Text :=
  match ofInt e.width with
  | .ok width => "invalid width ".toList ++ width ++ " (must be > 0)".toList
  | .error excess => excess.message

/-- Wraps a text to a width. Without a positive width only a text whose lines all fit is
accepted. -/
def wrap (s : Text) (width : Int) : Except InvalidWidth Text :=
  if 0 < width then .ok (wrapTo width.toNat s)
  else if linesFit width s then .ok s
  else .error ⟨width⟩

end CommitStandard.Text
