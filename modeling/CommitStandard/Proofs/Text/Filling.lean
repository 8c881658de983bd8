import Mathlib.Tactic
import CommitStandard.Proofs.Text.Lines
import CommitStandard.Text.Wrap

/-!
# Filled lines fit

Filling places the chunks of a line on lines of a width in order, without putting
in a character (`flatten_takeLine_isSuffix`), and a line that it starts is never
longer than the width (`length_takeLine_le`). A wrapped text therefore has no line
that is too long (`linesFit_wrapTo`), whatever the text and however narrow the
lines.
-/
namespace CommitStandard.Text

section Filling

variable {width used : Nat} {started : Bool} {cs : List Text}

theorem fit_append (width used : Nat) (cs : List Text) :
    (fit width used cs).1 ++ (fit width used cs).2 = cs := by
  induction cs generalizing used with
  | nil => rfl
  | cons c cs ih =>
    rw [fit]
    split
    · exact congrArg (c :: ·) (ih (used + c.length))
    · rfl

theorem length_fit_le (cs : List Text) (h : used ≤ width) :
    used + (fit width used cs).1.flatten.length ≤ width := by
  induction cs generalizing used with
  | nil => simpa [fit] using h
  | cons c cs ih =>
    rw [fit]
    split
    · rename_i hfits
      have := ih hfits
      simp only [List.flatten_cons, List.length_append]
      omega
    · simpa using h

/-- Breaking a chunk moves its beginning to the line. -/
theorem flatten_breakChunk (width : Nat) (p : List Text × List Text) :
    (breakChunk width p).1.flatten ++ (breakChunk width p).2.flatten =
      p.1.flatten ++ p.2.flatten := by
  obtain ⟨line, rest⟩ := p
  cases rest with
  | nil => rfl
  | cons c cs =>
    rw [breakChunk]
    split
    · simp only [List.flatten_append, List.flatten_cons, List.flatten_nil, List.append_nil,
        List.append_assoc]
      rw [← List.append_assoc (c.take _), List.take_append_drop]
    · rfl

theorem length_breakChunk_le {p : List Text × List Text} (hw : 1 ≤ width)
    (h : p.1.flatten.length ≤ width) : (breakChunk width p).1.flatten.length ≤ width := by
  obtain ⟨line, rest⟩ := p
  cases rest with
  | nil => exact h
  | cons c cs =>
    rw [breakChunk]
    split
    · rw [if_neg (by omega : ¬width = 0)]
      simp only [List.flatten_append, List.flatten_cons, List.flatten_nil, List.append_nil,
        List.length_append, List.length_take]
      dsimp only at h
      omega
    · exact h

theorem dropFirstBlank_isSuffix (cs : List Text) : dropFirstBlank cs <:+ cs := by
  unfold dropFirstBlank
  split
  · exact List.suffix_refl _
  · split
    · exact List.suffix_cons _ _
    · exact List.suffix_refl _

theorem dropLastBlank_isPrefix (line : List Text) : dropLastBlank line <+: line := by
  have := List.reverse_prefix.mpr (dropFirstBlank_isSuffix line.reverse)
  rwa [List.reverse_reverse] at this

/-- Taking a line keeps the characters in order; it can only drop a blank at the start. -/
theorem flatten_takeLine_isSuffix (width : Nat) (started : Bool) (cs : List Text) :
    (takeLine width started cs).1.flatten ++ (takeLine width started cs).2.flatten <:+
      cs.flatten := by
  have hsuffix : (if started then dropFirstBlank cs else cs) <:+ cs := by
    split
    · exact dropFirstBlank_isSuffix cs
    · exact List.suffix_refl cs
  obtain ⟨dropped, hdropped⟩ := hsuffix
  refine ⟨dropped.flatten, ?_⟩
  rw [takeLine, flatten_breakChunk, ← List.flatten_append, fit_append, ← List.flatten_append,
    hdropped]

theorem length_takeLine_le (hw : 1 ≤ width) (started : Bool) (cs : List Text) :
    (takeLine width started cs).1.flatten.length ≤ width := by
  refine length_breakChunk_le hw ?_
  simpa using length_fit_le (if started then dropFirstBlank cs else cs) (Nat.zero_le width)

/-- Every filled line fits and has only characters of the chunks. -/
theorem fillLines_spec (hw : 1 ≤ width) (started : Bool) (cs : List Text) :
    ∀ l ∈ fillLines width started cs, l.length ≤ width ∧ ∀ c ∈ l, c ∈ cs.flatten := by
  induction started, cs using fillLines.induct width with
  | case1 started => simp [fillLines]
  | case2 started cs hcs line rest hlt hempty ih =>
    have hrest : ∀ c ∈ rest.flatten, c ∈ cs.flatten := fun c hc =>
      (flatten_takeLine_isSuffix width started cs).subset (List.mem_append_right _ hc)
    rw [fillLines, dif_neg hcs, if_pos hempty]
    exact fun l hl => ⟨(ih l hl).1, fun c hc => hrest c ((ih l hl).2 c hc)⟩
  | case3 started cs hcs line rest hlt hempty ih =>
    have hrest : ∀ c ∈ rest.flatten, c ∈ cs.flatten := fun c hc =>
      (flatten_takeLine_isSuffix width started cs).subset (List.mem_append_right _ hc)
    have hline : line.flatten.Sublist (takeLine width started cs).1.flatten :=
      (dropLastBlank_isPrefix _).sublist.flatten
    rw [fillLines, dif_neg hcs, if_neg hempty]
    intro l hl
    rcases List.mem_cons.mp hl with rfl | hl
    · refine ⟨hline.length_le.trans (length_takeLine_le hw started cs), fun c hc => ?_⟩
      exact (flatten_takeLine_isSuffix width started cs).subset
        (List.mem_append_left _ (hline.subset hc))
    · exact ⟨(ih l hl).1, fun c hc => hrest c ((ih l hl).2 c hc)⟩

end Filling

/-- No line break is left in a line that is filled anew. -/
theorem newline_notMem_levelBlanks (line : Text) : '\n' ∉ levelBlanks line := by
  intro hmem
  obtain ⟨c, -, hc⟩ := List.mem_map.mp hmem
  split at hc
  · exact absurd hc (by decide)
  · rename_i hblank
    rw [hc] at hblank
    exact hblank (by decide)

section Fitting

variable {width : Int}

theorem linesFit_append_newline (s t : Text) :
    linesFit width (s ++ '\n' :: t) = (linesFit width s && linesFit width t) := by
  rw [linesFit, linesFit, linesFit, lines, pieces_append_cons, List.all_append]

theorem linesFit_of_notMem {l : Text} (hn : '\n' ∉ l) (hl : (l.length : Int) ≤ width) :
    linesFit width l = true := by
  simpa [linesFit, lines, pieces_eq_singleton hn] using hl

/-- Texts that are joined by line breaks fit if each of them does. -/
theorem linesFit_join_iff {sep : Text} (hsep : sep = ['\n'] ∨ sep = ['\n', '\n'])
    (hw : 0 ≤ width) {ps : List Text} :
    linesFit width (join sep ps) = true ↔ ∀ p ∈ ps, linesFit width p = true := by
  have hnil : linesFit width [] = true := linesFit_of_notMem (by simp) (by simpa using hw)
  induction ps with
  | nil => simpa using hnil
  | cons p ps ih =>
    rw [List.forall_mem_cons]
    refine Iff.trans ?_ (and_congr_right fun _ => ih)
    by_cases hne : ps = []
    · simp [hne, hnil]
    · rw [join_cons _ _ hne, ← Bool.and_eq_true]
      rcases hsep with rfl | rfl
      · rw [List.append_assoc, List.singleton_append, linesFit_append_newline]
      · rw [List.append_assoc, List.cons_append, List.singleton_append, linesFit_append_newline,
          ← List.nil_append ('\n' :: _), linesFit_append_newline, hnil, Bool.true_and]

end Fitting

theorem linesFit_of_mem_wrapLine {width : Nat} (hw : 1 ≤ width) {line l : Text}
    (hn : '\n' ∉ line) (hl : l ∈ wrapLine width line) : linesFit width l = true := by
  rw [wrapLine] at hl
  split at hl
  · rename_i hfits
    rw [List.mem_singleton.mp hl]
    exact linesFit_of_notMem hn (by omega)
  · obtain ⟨hlength, hchars⟩ := fillLines_spec hw false _ l hl
    rw [flatten_chunks] at hchars
    exact linesFit_of_notMem (fun hmem => newline_notMem_levelBlanks line (hchars _ hmem))
      (by omega)

/-- A wrapped text fits the width. -/
theorem linesFit_wrapTo {width : Nat} (hw : 1 ≤ width) (s : Text) :
    linesFit width (wrapTo width s) = true := by
  refine (linesFit_join_iff (Or.inr rfl) (by omega)).mpr fun p hp => ?_
  obtain ⟨paragraph, -, rfl⟩ := List.mem_map.mp hp
  refine (linesFit_join_iff (Or.inl rfl) (by omega)).mpr fun l hl => ?_
  obtain ⟨line, hline, hl⟩ := List.mem_flatMap.mp hl
  exact linesFit_of_mem_wrapLine hw (notMem_of_mem_pieces hline) hl

end CommitStandard.Text
