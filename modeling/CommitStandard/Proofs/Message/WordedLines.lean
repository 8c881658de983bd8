import Mathlib.Tactic
import CommitStandard.Proofs.Message.Stability

/-!
# Lines with words

Reading leaves out blank lines and no others, so that the paragraphs of a message
have the lines with more than blanks in them that the text has below its header
line (`worded_groups`). Every footer is made of one such line, and whatever is
read from a text has as many of them (`length_worded_of_parse`).
-/
namespace CommitStandard

namespace Text

/-- The lines that have more than blanks in them. -/
def worded (ls : List Text) : List Text := ls.filter fun l => !isBlankText l

@[simp] theorem worded_append (ls ks : List Text) : worded (ls ++ ks) = worded ls ++ worded ks :=
  List.filter_append ls ks

theorem worded_eq_nil_iff {ls : List Text} :
    worded ls = [] ↔ ∀ l ∈ ls, isBlankText l = true := by
  simp [worded, List.filter_eq_nil_iff]

theorem worded_eq_self {ls : List Text} (h : ∀ l ∈ ls, isBlankText l = false) :
    worded ls = ls := by
  rw [worded, List.filter_eq_self]
  intro l hl
  rw [h l hl]
  rfl

theorem worded_filter {ls : List Text} {p : Text → Bool}
    (h : ∀ l, p l = false → isBlankText l = true) : worded (ls.filter p) = worded ls := by
  rw [worded, List.filter_filter]
  refine List.filter_congr fun l _ => ?_
  cases hp : p l with
  | true => exact Bool.and_true _
  | false => rw [h l hp]; rfl

theorem worded_trimLines (ls : List Text) : worded (trimLines ls) = worded ls := by
  have hempty : ∀ l : Text, (!l.isEmpty) = false → isBlankText l = true := by
    intro l hl
    obtain rfl : l = [] := by simpa using hl
    rfl
  rw [← worded_filter hempty, ← @worded_filter ls _ hempty]
  exact congrArg worded (filter_trimEnds List.isEmpty ls)

end Text

namespace Footer

/-- A footer is read from a line that has more than blanks in it. -/
theorem isBlankText_of_parse {l : Text} {f : Footer} (h : parse l = .ok f) :
    Text.isBlankText l = false := by
  obtain ⟨token, rest, text, -, hs, -⟩ := parse_eq_ok_iff.mp h
  rw [← Bool.not_eq_true, ← Text.strip_eq_nil_iff, hs]
  simp

theorem Reads.worded_eq {ls : List Text} {fs : List Footer} (h : Reads ls fs) :
    Text.worded ls = ls :=
  Text.worded_eq_self fun l hl => by
    obtain ⟨f, -, hf⟩ := h.exists_of_mem hl
    exact isBlankText_of_parse hf

end Footer

namespace Message

/-- Blank paragraphs have no lines with words. -/
theorem worded_flatten_filter (ps : List (List Text)) :
    Text.worded (ps.filter fun p => !isBlankParagraph p).flatten = Text.worded ps.flatten := by
  induction ps with
  | nil => rfl
  | cons p ps ih =>
    rw [List.flatten_cons, Text.worded_append]
    cases hp : isBlankParagraph p with
    | true =>
      have hnone : Text.worded p = [] :=
        Text.worded_eq_nil_iff.mpr fun l hl => List.all_eq_true.mp hp l hl
      rw [List.filter_cons_of_neg (by simp [hp]), ih, hnone, List.nil_append]
    | false =>
      rw [List.filter_cons_of_pos (by simp [hp]), List.flatten_cons, Text.worded_append, ih]

/-- Grouping keeps the lines with words. -/
theorem worded_groups (ls : List Text) : Text.worded (groups ls).flatten = Text.worded ls := by
  have hblank : ∀ l, (!isBlankLine l) = false → Text.isBlankText l = true :=
    fun l hl => isBlankText_of_isBlankLine (by simpa using hl)
  rw [groups, worded_flatten_filter, ← Text.worded_trimLines ls]
  cases Text.trimLines ls with
  | nil => rfl
  | cons l ks =>
    rw [groupLines, flatten_groupFrom, List.reverse_singleton, List.singleton_append,
      ← List.singleton_append, Text.worded_append, Text.worded_append,
      Text.worded_filter hblank, ← Text.worded_append, ← Text.worded_append]
    rcases List.eq_nil_or_concat ks with rfl | ⟨js, k, rfl⟩
    · rfl
    · simp

theorem worded_rdropWhile (ls : List Text) :
    Text.worded (ls.rdropWhile List.isEmpty) = Text.worded ls := by
  rw [← worded_groups, groups_rdropWhile, worded_groups]

theorem worded_footerParagraphs (fs : List Footer) :
    Text.worded (footerParagraphs fs).flatten = fs.map Footer.plain := by
  rw [flatten_footerParagraphs]
  refine Text.worded_eq_self fun l hl => ?_
  obtain ⟨f, -, rfl⟩ := List.mem_map.mp hl
  exact Footer.isBlankText_plain f

/-- What was read has as many lines with words as the text has below its header line. -/
theorem length_worded_of_parse {s : Text} {m : Message} (h : parse .standard s = .ok m) :
    ∃ ps, IsRead m ps ∧ (Text.worded (ps ++ footerParagraphs m.footers).flatten).length =
      (Text.worded (messageLines s).tail).length := by
  obtain ⟨ps, blocks, hread, hsplit, hreads⟩ := exists_blocks_of_parse h
  refine ⟨ps, hread, ?_⟩
  rw [← worded_groups (messageLines s).tail, hsplit, List.flatten_append, List.flatten_append,
    Text.worded_append, Text.worded_append, worded_footerParagraphs, hreads.worded_eq,
    List.length_append, List.length_append, List.length_map, hreads.length_eq]

end Message

end CommitStandard
