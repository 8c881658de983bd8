import Mathlib.Tactic
import CommitStandard.Proofs.Text.Filling

/-!
# What wrapping keeps

Filling lines drops and replaces blanks only: the text without its blanks is the same before and
after (`inked_fillLines`). A text whose lines all fit is left alone (`wrapTo_eq_self`), and a
wrapped text is such a text, so that wrapping again changes nothing (`wrap_spec`).
-/
namespace CommitStandard.Text

def inked (s : Text) : Text := s.filter fun c => !isBlank c

section Inked

variable {s t : Text}

@[simp] theorem inked_nil : inked [] = [] := rfl

@[simp] theorem inked_append (s t : Text) : inked (s ++ t) = inked s ++ inked t :=
  List.filter_append s t

theorem inked_cons (c : Char) (s : Text) : inked (c :: s) = inked [c] ++ inked s :=
  inked_append [c] s

theorem inked_of_isBlankText (h : isBlankText s = true) : inked s = [] := by
  rw [isBlankText, List.all_eq_true] at h
  exact List.filter_eq_nil_iff.mpr fun c hc => by simp [h c hc]

/-- Blanks between texts do not show, nor does a change of the texts that shows in none. -/
theorem inked_join_flatMap {sep : Text} (hsep : isBlankText sep = true) {f : Text → List Text}
    (hf : ∀ p, inked (f p).flatten = inked p) (ps : List Text) :
    inked (join sep (ps.flatMap f)) = inked (join sep ps) := by
  have hjoin : ∀ qs, inked (join sep qs) = inked qs.flatten :=
    filter_join (inked_of_isBlankText hsep)
  rw [hjoin, hjoin]
  induction ps with
  | nil => rfl
  | cons p ps ih =>
    rw [List.flatMap_cons, List.flatten_append, inked_append, hf, ih, List.flatten_cons,
      inked_append]

end Inked

section Filling

theorem inked_expandTabs (column : Nat) (s : Text) : inked (expandTabs column s) = inked s := by
  induction s generalizing column with
  | nil => rfl
  | cons c s ih =>
    rw [expandTabs]
    split
    · rename_i hc
      have hspaces : inked (List.replicate (8 - column % 8) ' ') = [] :=
        inked_of_isBlankText (List.all_eq_true.mpr fun d hd => by
          rw [List.eq_of_mem_replicate hd]
          decide)
      rw [inked_append, hspaces, ih, hc]
      rfl
    · rw [inked_cons, ih, ← inked_cons]

theorem isBlank_of_asciiBlank {c : Char} (h : asciiBlank c = true) : isBlank c = true := by
  simp only [asciiBlank, Bool.or_eq_true, Bool.and_eq_true, decide_eq_true_eq, Char.le_def,
    UInt32.le_iff_toNat_le] at h
  rcases h with rfl | ⟨hfirst, hlast⟩
  · decide
  · have hrange : 0x09 ≤ c.toNat ∧ c.toNat ≤ 0x0d := ⟨hfirst, hlast⟩
    simp [isBlank, inRanges, hrange]

theorem inked_levelBlanks (line : Text) : inked (levelBlanks line) = inked line := by
  have hmap : ∀ s : Text, inked (s.map fun c => if asciiBlank c then ' ' else c) = inked s := by
    intro s
    induction s with
    | nil => rfl
    | cons c s ih =>
      rw [List.map_cons, inked_cons, ih, inked_cons c s]
      congr 1
      split
      · rename_i hc
        rw [inked_of_isBlankText (s := [c]) (by simpa [isBlankText] using isBlank_of_asciiBlank hc)]
        rfl
      · rfl
  rw [levelBlanks, hmap, inked_expandTabs]

theorem inked_dropFirstBlank (cs : List Text) :
    inked (dropFirstBlank cs).flatten = inked cs.flatten := by
  unfold dropFirstBlank
  split
  · rfl
  · split
    · rename_i hblank
      rw [List.flatten_cons, inked_append, inked_of_isBlankText hblank, List.nil_append]
    · rfl

theorem inked_dropLastBlank (line : List Text) :
    inked (dropLastBlank line).flatten = inked line.flatten := by
  induction line using List.reverseRecOn with
  | nil => rfl
  | append_singleton line c _ =>
    rw [dropLastBlank, List.reverse_concat, dropFirstBlank]
    split
    · rename_i hblank
      rw [List.reverse_reverse, List.flatten_append, inked_append, List.flatten_singleton,
        inked_of_isBlankText hblank, List.append_nil]
    · rw [List.reverse_cons, List.reverse_reverse]

theorem inked_takeLine (width : Nat) (started : Bool) (cs : List Text) :
    inked (takeLine width started cs).1.flatten ++ inked (takeLine width started cs).2.flatten =
      inked cs.flatten := by
  rw [← inked_append, takeLine, flatten_breakChunk, ← List.flatten_append, fit_append]
  split
  · exact inked_dropFirstBlank cs
  · rfl

/-- Nothing but blanks is lost when lines are filled. -/
theorem inked_fillLines (width : Nat) (started : Bool) (cs : List Text) :
    inked (fillLines width started cs).flatten = inked cs.flatten := by
  induction started, cs using fillLines.induct width with
  | case1 started => simp [fillLines]
  | case2 started cs hcs line rest hlt hempty ih =>
    have hline : inked (takeLine width started cs).1.flatten = [] := by
      rw [← inked_dropLastBlank, show dropLastBlank _ = [] from List.isEmpty_iff.mp hempty]
      rfl
    rw [fillLines, dif_neg hcs, if_pos hempty, ih, ← inked_takeLine width started cs, hline]
    rfl
  | case3 started cs hcs line rest hlt hempty ih =>
    rw [fillLines, dif_neg hcs, if_neg hempty, List.flatten_cons, inked_append, ih,
      inked_dropLastBlank, inked_takeLine]

theorem inked_wrapLine (width : Nat) (line : Text) :
    inked (wrapLine width line).flatten = inked line := by
  rw [wrapLine]
  split
  · rw [List.flatten_singleton]
  · rw [inked_fillLines, flatten_chunks, inked_levelBlanks]

end Filling

section Paragraphs

variable {width : Nat}

/-- Nothing but blanks is lost when a text is wrapped. -/
theorem inked_wrapTo (width : Nat) (s : Text) : inked (wrapTo width s) = inked s := by
  have hparagraph : ∀ p : Text,
      inked (join "\n".toList ((lines p).flatMap (wrapLine width))) = inked p := by
    intro p
    rw [inked_join_flatMap (by decide) (inked_wrapLine width)]
    exact congrArg inked (join_pieces '\n' p)
  rw [wrapTo, List.map_eq_flatMap, inked_join_flatMap (by decide), join_splitOn s (by decide)]
  intro p
  rw [List.flatten_singleton, hparagraph]

/-- A text whose lines fit is left alone. -/
theorem wrapTo_eq_self {width : Nat} {s : Text} (h : linesFit width s = true) :
    wrapTo width s = s := by
  have hparagraph : ∀ p ∈ splitOn "\n\n".toList s,
      join "\n".toList ((lines p).flatMap (wrapLine width)) = p := by
    intro p hp
    have hfits : linesFit width p = true := by
      rw [← join_splitOn s (by decide : "\n\n".toList ≠ [])] at h
      exact (linesFit_join_iff (Or.inr rfl) (by omega)).mp h p hp
    have hlines : (lines p).flatMap (wrapLine width) = lines p := by
      rw [linesFit, List.all_eq_true] at hfits
      calc (lines p).flatMap (wrapLine width) = (lines p).flatMap fun l => [l] :=
            List.flatMap_congr fun l hl => if_pos (by simpa using hfits l hl)
        _ = lines p := List.flatMap_singleton' _
    rw [hlines]
    exact join_pieces '\n' p
  have hparagraphs : ((splitOn "\n\n".toList s).map fun paragraph =>
      join "\n".toList ((lines paragraph).flatMap (wrapLine width))) = splitOn "\n\n".toList s :=
    (List.map_congr_left hparagraph).trans (List.map_id _)
  rw [wrapTo, hparagraphs, join_splitOn s (by decide)]

/-- With room for a character, every text can be wrapped: all lines of the outcome fit, wrapping it
again changes nothing, a text whose lines fit is left alone, and only blanks differ. -/
theorem wrap_spec (s : Text) {width : Int} (hw : 1 ≤ width) :
    ∃ t, wrap s width = .ok t ∧ linesFit width t = true ∧ wrap t width = .ok t ∧
      (linesFit width s = true → t = s) ∧ inked t = inked s := by
  obtain ⟨n, rfl⟩ := Int.eq_ofNat_of_zero_le (by omega : 0 ≤ width)
  have hwrap : ∀ u, wrap u n = .ok (wrapTo n u) := fun u => if_pos (by omega)
  have hfits : linesFit n (wrapTo n s) = true := linesFit_wrapTo (by omega) s
  refine ⟨wrapTo n s, hwrap s, hfits, ?_, wrapTo_eq_self, inked_wrapTo n s⟩
  rw [hwrap, wrapTo_eq_self hfits]

/-- A tab, a word that is too long for a line and a line of blanks. -/
theorem wrap_spec_tabbed :
    1 ≤ (4 : Int) ∧ ∃ t, wrap "a\tbcdefg h\n      \ni".toList 4 = .ok t ∧
      linesFit 4 t = true ∧ wrap t 4 = .ok t ∧ inked t = "abcdefghi".toList := by
  obtain ⟨t, hwrap, hfits, hagain, -, hinked⟩ :=
    wrap_spec "a\tbcdefg h\n      \ni".toList (by decide : 1 ≤ (4 : Int))
  exact ⟨by decide, t, hwrap, hfits, hagain, hinked.trans (by decide)⟩

end Paragraphs

end CommitStandard.Text
