import Mathlib.Tactic
import CommitStandard.Proofs.Text.Lines
import CommitStandard.Message.Parse

/-!
# Paragraphs

A message text is read line by line: `messageLines` gives its lines, `groups` the
paragraphs of lines, and `parse_eq_lines` says what reading makes of them.
`Message.Paragraphed` says of paragraphs what reading makes of them: their lines
are not empty, none is blank but possibly the first and the last of all, and
every paragraph has more than blanks in it. Reading makes such paragraphs
(`paragraphed_groups`), they are found again in their lines
(`groups_spacedLines`), and leaving some of them out changes nothing in this
(`Paragraphed.sublist`). A text that is written as a line and such paragraphs
determines both (`written_inj`).
-/
namespace CommitStandard.Message

/-- The lines of paragraphs, with an empty line between neighbours. -/
def spacedLines : List (List Text) → List Text
  | [] => []
  | [p] => p
  | p :: q :: ps => p ++ [] :: spacedLines (q :: ps)

section Spacing

variable {p : List Text} {ps : List (List Text)}

theorem spacedLines_cons (p : List Text) (h : ps ≠ []) :
    spacedLines (p :: ps) = p ++ [] :: spacedLines ps := by
  cases ps with
  | nil => exact absurd rfl h
  | cons q qs => rfl

theorem spacedLines_cons_cons (l : Text) (p : List Text) (ps : List (List Text)) :
    spacedLines ((l :: p) :: ps) = l :: spacedLines (p :: ps) := by
  cases ps <;> rfl

theorem mem_spacedLines {l : Text} (h : l ∈ spacedLines ps) : l = [] ∨ ∃ p ∈ ps, l ∈ p := by
  induction ps with
  | nil => simp [spacedLines] at h
  | cons p ps ih =>
    by_cases hps : ps = []
    · subst hps
      exact Or.inr ⟨p, List.mem_cons_self, h⟩
    · rw [spacedLines_cons p hps] at h
      rcases List.mem_append.mp h with h | h
      · exact Or.inr ⟨p, List.mem_cons_self, h⟩
      · rcases List.mem_cons.mp h with h | h
        · exact Or.inl h
        · rcases ih h with h | ⟨q, hq, hl⟩
          · exact Or.inl h
          · exact Or.inr ⟨q, List.mem_cons_of_mem p hq, hl⟩

theorem spacedLines_ne_nil (hne : ps ≠ []) (h : ∀ p ∈ ps, p ≠ []) : spacedLines ps ≠ [] := by
  obtain ⟨p, ps, rfl⟩ := List.exists_cons_of_ne_nil hne
  obtain ⟨l, p, rfl⟩ := List.exists_cons_of_ne_nil (h p List.mem_cons_self)
  rw [spacedLines_cons_cons]
  simp

/-- The empty lines are those between paragraphs. -/
theorem filter_spacedLines (h : ∀ p ∈ ps, ∀ l ∈ p, l ≠ []) :
    (spacedLines ps).filter (fun l => !l.isEmpty) = ps.flatten := by
  have hkept : ∀ q ∈ ps, q.filter (fun l => !l.isEmpty) = q := by
    intro q hq
    rw [List.filter_eq_self]
    intro l hl
    simpa using h q hq l hl
  induction ps with
  | nil => rfl
  | cons p ps ih =>
    have hp := hkept p List.mem_cons_self
    by_cases hps : ps = []
    · subst hps
      simpa [spacedLines] using hp
    · have hrest := ih (fun q hq => h q (List.mem_cons_of_mem p hq))
        fun q hq => hkept q (List.mem_cons_of_mem p hq)
      rw [spacedLines_cons p hps, List.filter_append, hp, List.flatten_cons]
      simpa using hrest

theorem getLast?_spacedLines (h : ∀ p ∈ ps, p ≠ []) :
    (spacedLines ps).getLast? = ps.flatten.getLast? := by
  induction ps with
  | nil => rfl
  | cons p ps ih =>
    by_cases hps : ps = []
    · subst hps
      simp [spacedLines]
    · have hq : ∀ q ∈ ps, q ≠ [] := fun q hq => h q (List.mem_cons_of_mem p hq)
      have hlines := spacedLines_ne_nil hps hq
      have hlast := ih hq
      rw [spacedLines_cons p hps, List.getLast?_append, List.getLast?_cons_of_ne_nil hlines, hlast,
        List.flatten_cons, List.getLast?_append]

theorem joinParagraphs_eq (h : ∀ p ∈ ps, p ≠ []) :
    joinParagraphs ps = Text.join ['\n'] (spacedLines ps) := by
  unfold joinParagraphs
  induction ps with
  | nil => rfl
  | cons p ps ih =>
    by_cases hps : ps = []
    · subst hps
      rfl
    · have hq : ∀ q ∈ ps, q ≠ [] := fun q hq => h q (List.mem_cons_of_mem p hq)
      rw [List.map_cons, Text.join_cons _ _ (by simpa using hps), ih hq, spacedLines_cons p hps,
        Text.join_append _ (h p List.mem_cons_self) (by simp),
        Text.join_cons _ _ (spacedLines_ne_nil hps hq)]
      simp

/-- Every paragraph is preceded by an empty line where a line stands before all of them. -/
theorem gap_spacedLines (ps : List (List Text)) :
    (if ps = [] then [] else [] :: spacedLines ps) = ps.flatMap (List.cons []) := by
  induction ps with
  | nil => rfl
  | cons p ps ih =>
    rw [if_neg (by simp), List.flatMap_cons, ← ih]
    by_cases hps : ps = []
    · subst hps
      simp [spacedLines]
    · rw [spacedLines_cons p hps, if_neg hps]
      rfl

/-- The lines of a text of paragraphs, which may themselves have empty lines. -/
theorem lines_joinParagraphs (h : ∀ p ∈ ps, p ≠ []) (hn : ∀ p ∈ ps, ∀ l ∈ p, '\n' ∉ l)
    (hne : ps ≠ []) : Text.lines (joinParagraphs ps) = spacedLines ps := by
  have hplain : ∀ l ∈ spacedLines ps, '\n' ∉ l := by
    intro l hl
    rcases mem_spacedLines hl with rfl | ⟨p, hp, hlp⟩
    · simp
    · exact hn p hp l hlp
  rw [joinParagraphs_eq h]
  exact Text.pieces_join hplain (spacedLines_ne_nil hne h)

end Spacing

section Grouping

variable {current p ls : List Text} {ps : List (List Text)}

theorem groupFrom_append (hp : ∀ l ∈ p, isBlankLine l = false) (ls : List Text) :
    groupFrom current (p ++ ls) = groupFrom (p.reverse ++ current) ls := by
  induction p generalizing current with
  | nil => rfl
  | cons l p ih =>
    have hl := hp l List.mem_cons_self
    have hrest := @ih (l :: current) fun k hk => hp k (List.mem_cons_of_mem l hk)
    rw [List.cons_append, groupFrom, hl, hrest]
    simp

/-- An empty line ends a paragraph. -/
theorem groupFrom_gap (hc : current ≠ []) (hl : ls ≠ []) :
    groupFrom current ([] :: ls) = current.reverse :: groupFrom [] ls := by
  rw [groupFrom]
  simp [isBlankLine, hc, hl]

theorem groupFrom_last (current : List Text) (l : Text) :
    groupFrom current [l] = [current.reverse ++ [l]] := by
  simp [groupFrom]

/-- Paragraphs are found again in their lines if no line but the last of all is blank. -/
theorem groupFrom_spacedLines (hc : current ≠ [] ∨ p ≠ []) (hps : ∀ q ∈ ps, q ≠ [])
    (hb : ∀ l ∈ (p :: ps).flatten.dropLast, isBlankLine l = false) :
    groupFrom current (spacedLines (p :: ps)) = (current.reverse ++ p) :: ps := by
  induction ps generalizing current p with
  | nil =>
    rw [List.flatten_singleton] at hb
    rcases List.eq_nil_or_concat p with rfl | ⟨q, l, rfl⟩
    · simp [spacedLines, groupFrom]
    · rw [List.concat_eq_append] at hb ⊢
      rw [List.dropLast_concat] at hb
      rw [spacedLines, groupFrom_append hb, groupFrom_last]
      simp
  | cons q ps ih =>
    have hq : q ≠ [] := hps q List.mem_cons_self
    have hflat : (q :: ps).flatten ≠ [] := by simp [hq]
    rw [List.flatten_cons, List.dropLast_append_of_ne_nil hflat] at hb
    have hpb : ∀ l ∈ p, isBlankLine l = false := fun l hl => hb l (List.mem_append_left _ hl)
    have hrest := @ih [] q (Or.inr hq) (fun r hr => hps r (List.mem_cons_of_mem q hr))
      fun l hl => hb l (List.mem_append_right _ hl)
    have hlines : spacedLines (q :: ps) ≠ [] := spacedLines_ne_nil (by simp) hps
    have hcurrent : p.reverse ++ current ≠ [] := by
      rcases hc with hc | hc <;> simp [hc]
    rw [spacedLines_cons p (by simp), groupFrom_append hpb, groupFrom_gap hcurrent hlines, hrest]
    simp

theorem groupLines_spacedLines (hne : ps ≠ []) (hps : ∀ q ∈ ps, q ≠ [])
    (hb : ∀ l ∈ ps.flatten.tail.dropLast, isBlankLine l = false) :
    groupLines (spacedLines ps) = ps := by
  obtain ⟨p, ps, rfl⟩ := List.exists_cons_of_ne_nil hne
  obtain ⟨l, p, rfl⟩ := List.exists_cons_of_ne_nil (hps p List.mem_cons_self)
  rw [spacedLines_cons_cons, groupLines, groupFrom_spacedLines (Or.inl (by simp))
    (fun q hq => hps q (List.mem_cons_of_mem _ hq)) hb]
  rfl

/-- Grouping leaves out blank lines before the last line, and nothing else. -/
theorem flatten_groupFrom (current ls : List Text) :
    (groupFrom current ls).flatten =
      current.reverse ++ (ls.dropLast.filter (fun l => !isBlankLine l) ++ ls.getLast?.toList) := by
  induction ls generalizing current with
  | nil => simp [groupFrom]
  | cons l ls ih =>
    by_cases hls : ls = []
    · subst hls
      simp [groupFrom_last]
    · have hdrop : (l :: ls).dropLast = l :: ls.dropLast := List.dropLast_cons_of_ne_nil hls
      rw [groupFrom, hdrop, List.getLast?_cons_of_ne_nil hls]
      cases hl : isBlankLine l with
      | true =>
        have hempty : ls.isEmpty = false := by simpa using hls
        simp only [hempty, Bool.not_false, Bool.and_self, if_true, List.filter_cons, hl,
          Bool.not_true, Bool.false_eq_true, if_false]
        cases hc : current.isEmpty with
        | true =>
          rw [if_pos rfl, ih, List.isEmpty_iff.mp hc]
        | false =>
          rw [if_neg (by simp), List.flatten_cons, ih]
          simp
      | false =>
        simp only [Bool.false_and, Bool.false_eq_true, if_false, ih, List.filter_cons, hl,
          Bool.not_false, if_true]
        simp

/-- What follows an empty line is grouped on its own. -/
theorem groupFrom_append_gap (current ls : List Text) {ks : List Text} (hk : ks ≠ []) :
    ∃ qs, groupFrom current (ls ++ [] :: ks) = qs ++ groupFrom [] ks ∧
      ∀ l ∈ qs.flatten, l ∈ current ∨ l ∈ ls := by
  induction ls generalizing current with
  | nil =>
    by_cases hc : current = []
    · subst hc
      refine ⟨[], ?_, by simp⟩
      rw [List.nil_append, groupFrom]
      simp [isBlankLine, hk]
    · exact ⟨[current.reverse], groupFrom_gap hc hk, by simp⟩
  | cons l ls ih =>
    have hrest : (ls ++ [] :: ks).isEmpty = false := by simp
    rw [List.cons_append, groupFrom, hrest]
    cases hl : isBlankLine l with
    | true =>
      obtain ⟨qs, hqs, hmem⟩ := ih []
      have hin : ∀ k ∈ qs.flatten, k ∈ current ∨ k ∈ l :: ls := by
        intro k hk
        rcases hmem k hk with h0 | hls
        · simp at h0
        · exact Or.inr (List.mem_cons_of_mem l hls)
      simp only [Bool.not_false, Bool.and_self, if_true, hqs]
      split
      · exact ⟨qs, rfl, hin⟩
      · refine ⟨current.reverse :: qs, rfl, ?_⟩
        intro k hk
        rw [List.flatten_cons] at hk
        rcases List.mem_append.mp hk with hk | hk
        · exact Or.inl (List.mem_reverse.mp hk)
        · exact hin k hk
    | false =>
      obtain ⟨qs, hqs, hmem⟩ := ih (l :: current)
      simp only [Bool.false_and, Bool.false_eq_true, if_false, hqs]
      refine ⟨qs, rfl, fun k hk => ?_⟩
      rcases hmem k hk with hcur | hls
      · rcases List.mem_cons.mp hcur with rfl | hcur
        · exact Or.inr List.mem_cons_self
        · exact Or.inl hcur
      · exact Or.inr (List.mem_cons_of_mem l hls)

end Grouping

/-- What reading makes of paragraphs. -/
structure Paragraphed (ps : List (List Text)) : Prop where
  filled : ∀ p ∈ ps, isBlankParagraph p = false
  line_filled : ∀ p ∈ ps, ∀ l ∈ p, l ≠ []
  line_plain : ∀ p ∈ ps, ∀ l ∈ p, '\n' ∉ l
  inner : ∀ l ∈ ps.flatten.tail.dropLast, isBlankLine l = false

theorem ne_nil_of_isBlankParagraph {p : List Text} (h : isBlankParagraph p = false) : p ≠ [] := by
  rintro rfl
  exact absurd h (by decide)

theorem isBlankText_of_isBlankLine {l : Text} (h : isBlankLine l = true) :
    Text.isBlankText l = true := by
  refine List.all_eq_true.mpr fun c hc => ?_
  have hc := List.all_eq_true.mp h c hc
  simp only [Bool.or_eq_true, decide_eq_true_eq] at hc
  rcases hc with rfl | rfl <;> decide

theorem isBlankLine_of_isBlankText {l : Text} (h : Text.isBlankText l = false) :
    isBlankLine l = false := by
  by_contra hblank
  rw [isBlankText_of_isBlankLine (by simpa using hblank)] at h
  cases h

theorem sublist_dropLast {α : Type*} {l₁ l₂ : List α} (h : l₁.Sublist l₂) :
    l₁.dropLast.Sublist l₂.dropLast := by
  have hr := (List.reverse_sublist.mpr h).tail
  rw [List.tail_reverse, List.tail_reverse] at hr
  exact List.reverse_sublist.mp hr

namespace Paragraphed

variable {ps qs : List (List Text)}

theorem ne_nil (h : Paragraphed ps) : ∀ p ∈ ps, p ≠ [] :=
  fun p hp => ne_nil_of_isBlankParagraph (h.filled p hp)

theorem nil : Paragraphed [] := by
  constructor <;> simp

theorem sublist (h : Paragraphed ps) (hs : qs.Sublist ps) : Paragraphed qs where
  filled := fun p hp => h.filled p (hs.subset hp)
  line_filled := fun p hp => h.line_filled p (hs.subset hp)
  line_plain := fun p hp => h.line_plain p (hs.subset hp)
  inner := fun l hl => h.inner l ((sublist_dropLast hs.flatten.tail).subset hl)

/-- Paragraphs of lines that are not blank. -/
theorem of_filled (hf : ∀ p ∈ ps, p ≠ [])
    (hl : ∀ p ∈ ps, ∀ l ∈ p, '\n' ∉ l ∧ Text.isBlankText l = false) : Paragraphed ps where
  filled := by
    intro p hp
    obtain ⟨l, p, rfl⟩ := List.exists_cons_of_ne_nil (hf p hp)
    simp [isBlankParagraph, (hl _ hp l List.mem_cons_self).2]
  line_filled := by
    rintro p hp l hlp rfl
    exact absurd (hl p hp [] hlp).2 (by decide)
  line_plain := fun p hp l hlp => (hl p hp l hlp).1
  inner := by
    intro l hl'
    obtain ⟨p, hp, hlp⟩ :=
      List.mem_flatten.mp (List.mem_of_mem_tail (List.mem_of_mem_dropLast hl'))
    exact isBlankLine_of_isBlankText (hl p hp l hlp).2

/-- The paragraphs at the end can be exchanged for others without blank lines. -/
theorem exchange {rs : List (List Text)} (h : Paragraphed (ps ++ qs)) (hq : qs = [] → rs = [])
    (hf : ∀ p ∈ rs, p ≠ []) (hl : ∀ p ∈ rs, ∀ l ∈ p, '\n' ∉ l ∧ Text.isBlankText l = false) :
    Paragraphed (ps ++ rs) := by
  have hr := of_filled hf hl
  by_cases hrs : rs = []
  · rw [hrs]
    exact h.sublist (by simp)
  have hqf : qs.flatten ≠ [] := by
    obtain ⟨q, qs, rfl⟩ := List.exists_cons_of_ne_nil fun h0 => hrs (hq h0)
    have := h.ne_nil q (by simp)
    simp [this]
  have hps := h.sublist (List.sublist_append_left ps qs)
  have hbt : ∀ l ∈ rs.flatten, isBlankLine l = false := by
    intro l hl'
    obtain ⟨p, hp, hlp⟩ := List.mem_flatten.mp hl'
    exact isBlankLine_of_isBlankText (hl p hp l hlp).2
  refine ⟨?_, ?_, ?_, ?_⟩
  · intro p hp
    rcases List.mem_append.mp hp with hp | hp
    · exact hps.filled p hp
    · exact hr.filled p hp
  · intro p hp
    rcases List.mem_append.mp hp with hp | hp
    · exact hps.line_filled p hp
    · exact hr.line_filled p hp
  · intro p hp
    rcases List.mem_append.mp hp with hp | hp
    · exact hps.line_plain p hp
    · exact hr.line_plain p hp
  · intro l hl'
    have hinner := h.inner
    rw [List.flatten_append] at hl' hinner
    -- The first line stays the first one; the lines after it are no longer last.
    cases hp : ps.flatten with
    | nil =>
      rw [hp, List.nil_append] at hl'
      exact hbt l (List.mem_of_mem_tail (List.mem_of_mem_dropLast hl'))
    | cons k ks =>
      rw [hp, List.cons_append, List.tail_cons] at hl' hinner
      rw [List.dropLast_append_of_ne_nil hqf] at hinner
      rcases List.mem_append.mp (List.mem_of_mem_dropLast hl') with hm | hm
      · exact hinner l (List.mem_append_left _ hm)
      · exact hbt l hm

theorem head?_lines (h : Paragraphed ps) : (spacedLines ps).head? ≠ some [] := by
  cases ps with
  | nil => simp [spacedLines]
  | cons p ps =>
    obtain ⟨l, p, rfl⟩ := List.exists_cons_of_ne_nil (h.ne_nil p List.mem_cons_self)
    rw [spacedLines_cons_cons]
    simpa using h.line_filled _ List.mem_cons_self l List.mem_cons_self

theorem getLast?_lines (h : Paragraphed ps) : (spacedLines ps).getLast? ≠ some [] := by
  rw [getLast?_spacedLines h.ne_nil]
  intro hl
  obtain ⟨p, hp, hlp⟩ := List.mem_flatten.mp (List.mem_of_getLast? hl)
  exact h.line_filled p hp [] hlp rfl

theorem joinParagraphs_ne_nil (h : Paragraphed ps) (hne : ps ≠ []) : joinParagraphs ps ≠ [] := by
  intro h0
  have hhead := h.head?_lines
  rw [← lines_joinParagraphs h.ne_nil h.line_plain hne, h0] at hhead
  exact hhead rfl

theorem joinParagraphs_eq_nil_iff (h : Paragraphed ps) : joinParagraphs ps = [] ↔ ps = [] := by
  constructor
  · intro h0
    by_contra hne
    exact h.joinParagraphs_ne_nil hne h0
  · rintro rfl
    rfl

end Paragraphed

/-- The paragraphs of lines that have more than blanks in them. -/
def groups (ls : List Text) : List (List Text) :=
  (groupLines (Text.trimLines ls)).filter fun p => !isBlankParagraph p

theorem groups_nil_cons (ls : List Text) : groups ([] :: ls) = groups ls := rfl

theorem paragraphsOf_join {ls : List Text} (h : ∀ l ∈ ls, '\n' ∉ l) :
    paragraphsOf (Text.join ['\n'] ls) = groups ls := by
  rw [paragraphsOf, Text.trim_join h, groups]
  by_cases hls : Text.trimLines ls = []
  · rw [hls]
    rfl
  · rw [Text.lines, Text.pieces_join (fun l hl => h l (Text.trimLines_subset hl)) hls]

theorem groups_rdropWhile (ls : List Text) : groups (ls.rdropWhile List.isEmpty) = groups ls := by
  unfold groups Text.trimLines
  rw [Text.trimEnds_rdropWhile]

/-- Paragraphs are found again in their lines. -/
theorem groups_spacedLines {ps : List (List Text)} (h : Paragraphed ps) :
    groups (spacedLines ps) = ps := by
  by_cases hne : ps = []
  · subst hne
    rfl
  · rw [groups, Text.trimLines_eq_self h.head?_lines h.getLast?_lines,
      groupLines_spacedLines hne h.ne_nil h.inner, List.filter_eq_self]
    intro p hp
    simp [h.filled p hp]

/-- Paragraphs without blank lines are found again behind other lines. -/
theorem groups_append_spacedLines (ls : List Text) {ps : List (List Text)} (hne : ps ≠ [])
    (hf : ∀ p ∈ ps, p ≠ []) (hl : ∀ p ∈ ps, ∀ l ∈ p, '\n' ∉ l ∧ Text.isBlankText l = false) :
    ∃ qs, groups (ls ++ [] :: spacedLines ps) = qs ++ ps ∧ ∀ l ∈ qs.flatten, l ∈ ls := by
  have hps := Paragraphed.of_filled hf hl
  induction ls with
  | nil => exact ⟨[], groups_spacedLines hps, by simp⟩
  | cons l ls ih =>
    by_cases hlne : l = []
    · obtain ⟨qs, hqs, hmem⟩ := ih
      refine ⟨qs, ?_, fun k hk => List.mem_cons_of_mem l (hmem k hk)⟩
      rw [hlne, List.cons_append, groups_nil_cons, hqs]
    -- From the first line on that is not empty nothing is trimmed off.
    · have hlines : spacedLines ps ≠ [] := spacedLines_ne_nil hne hf
      have htrim : Text.trimLines (l :: ls ++ [] :: spacedLines ps) =
          l :: ls ++ [] :: spacedLines ps := by
        apply Text.trimLines_eq_self
        · simpa using hlne
        · rw [List.getLast?_append_of_ne_nil _ (by simp), List.getLast?_cons_of_ne_nil hlines]
          exact hps.getLast?_lines
      obtain ⟨qs, hqs, hmem⟩ := groupFrom_append_gap [l] ls hlines
      have hrest : groupFrom [] (spacedLines ps) = ps := by
        obtain ⟨p, ps, rfl⟩ := List.exists_cons_of_ne_nil hne
        refine groupFrom_spacedLines (Or.inr (hf p List.mem_cons_self))
          (fun q hq => hf q (List.mem_cons_of_mem p hq)) fun k hk => ?_
        obtain ⟨q, hq, hkq⟩ := List.mem_flatten.mp (List.mem_of_mem_dropLast hk)
        exact isBlankLine_of_isBlankText (hl q hq k hkq).2
      have hkept : ps.filter (fun p => !isBlankParagraph p) = ps := by
        rw [List.filter_eq_self]
        intro p hp
        simp [hps.filled p hp]
      refine ⟨qs.filter fun p => !isBlankParagraph p, ?_, fun k hk => ?_⟩
      · rw [groups, htrim, List.cons_append, groupLines, hqs, hrest, List.filter_append, hkept]
      · have hk' := hmem k (List.filter_sublist.flatten.subset hk)
        rw [List.mem_singleton] at hk'
        exact List.mem_cons.mpr hk'

/-- The lines of the paragraphs are among the lines, in order. -/
theorem flatten_groups_sublist (ls : List Text) :
    (groups ls).flatten.Sublist (Text.trimLines ls) := by
  refine (List.filter_sublist.flatten).trans ?_
  cases Text.trimLines ls with
  | nil => simp [groupLines]
  | cons l ls =>
    have hsub :
        (ls.dropLast.filter (fun l => !isBlankLine l) ++ ls.getLast?.toList).Sublist ls := by
      rcases List.eq_nil_or_concat ls with rfl | ⟨ks, k, rfl⟩
      · simp
      · simp [List.filter_sublist]
    rw [groupLines, flatten_groupFrom]
    simpa using hsub

/-- Reading makes paragraphs without empty lines. -/
theorem paragraphed_groups {ls : List Text} (hn : ∀ l ∈ ls, '\n' ∉ l) :
    Paragraphed (groups ls) := by
  have hsub := flatten_groups_sublist ls
  have hhead := Text.head?_trimLines ls
  have hlast := Text.getLast?_trimLines ls
  have hplain : ∀ l ∈ Text.trimLines ls, '\n' ∉ l := fun l hl => hn l (Text.trimLines_subset hl)
  have hgroups : groups ls = (groupLines (Text.trimLines ls)).filter fun p => !isBlankParagraph p :=
    rfl
  cases hls : Text.trimLines ls with
  | nil =>
    rw [hgroups, hls]
    exact Paragraphed.nil
  | cons l ks =>
    rw [hls] at hsub hhead hlast hplain
    have hflat : (groups ls).flatten.Sublist
        (l :: (ks.dropLast.filter (fun l => !isBlankLine l) ++ ks.getLast?.toList)) := by
      have hall : (groupLines (l :: ks)).flatten =
          l :: (ks.dropLast.filter (fun l => !isBlankLine l) ++ ks.getLast?.toList) :=
        flatten_groupFrom [l] ks
      rw [hgroups, hls, ← hall]
      exact List.filter_sublist.flatten
    refine ⟨?_, ?_, ?_, ?_⟩
    · intro p hp
      simpa using (List.mem_filter.mp hp).2
    · rintro p hp k hk rfl
      rcases List.mem_cons.mp (hflat.subset (List.mem_flatten.mpr ⟨p, hp, hk⟩)) with h0 | hmem
      · exact hhead (by rw [← h0]; rfl)
      · rcases List.mem_append.mp hmem with hmem | hmem
        · exact absurd (List.mem_filter.mp hmem).2 (by decide)
        · refine hlast ?_
          rw [Option.mem_toList] at hmem
          rw [List.getLast?_cons, hmem]
          rfl
    · intro p hp k hk
      exact hplain k (hsub.subset (List.mem_flatten.mpr ⟨p, hp, hk⟩))
    · intro k hk
      have hmem := (sublist_dropLast hflat.tail).subset hk
      rw [List.tail_cons] at hmem
      have hfilter : k ∈ ks.dropLast.filter fun l => !isBlankLine l := by
        rcases List.eq_nil_or_concat ks with rfl | ⟨js, m, rfl⟩
        · simp at hmem
        · rw [List.concat_eq_append] at hmem ⊢
          simpa using hmem
      simpa using (List.mem_filter.mp hfilter).2

section Reading

/-- The lines that a message text is read as. -/
def messageLines (s : Text) : List Text := Text.trimLines (Text.chopReturns (Text.lines s))

theorem messageLines_plain (s : Text) : ∀ l ∈ messageLines s, '\n' ∉ l := by
  intro l hl hn
  obtain ⟨k, hk, hlk⟩ := Text.prefix_of_mem_chopReturns (Text.trimLines_subset hl)
  exact Text.notMem_of_mem_pieces hk (hlk.subset hn)

theorem newline_notMem_headD (s : Text) : '\n' ∉ (messageLines s).headD [] := by
  cases hls : messageLines s with
  | nil => simp
  | cons l ls => exact messageLines_plain s l (by simp [hls])

/-- The lines that lines joined to a text are read as, where the first of them is kept. -/
theorem messageLines_join {l : Text} {ls : List Text} (hl : l ≠ [])
    (hr : l.getLast? ≠ some '\r') (hn : ∀ k ∈ l :: ls, '\n' ∉ k) :
    messageLines (Text.join ['\n'] (l :: ls)) =
      l :: (Text.chopReturns ls).rdropWhile List.isEmpty := by
  have hchop : Text.chopReturns (l :: ls) = l :: Text.chopReturns ls := by
    by_cases hls : ls = []
    · subst hls
      rfl
    · rw [Text.chopReturns_cons l hls, Text.chopReturn, if_neg hr]
  rw [messageLines, Text.lines, Text.pieces_join hn (by simp), hchop, Text.trimLines_cons hl]

theorem trim_unixLines (s : Text) :
    Text.trim (· = '\n') (Text.unixLines s) = Text.join ['\n'] (messageLines s) := by
  have hs : ∀ l ∈ Text.lines s, '\n' ∉ l := fun l => Text.notMem_of_mem_pieces
  have hchop : ∀ l ∈ Text.chopReturns (Text.lines s), '\n' ∉ l := by
    intro l hl hn
    obtain ⟨k, hk, hlk⟩ := Text.prefix_of_mem_chopReturns hl
    exact hs k hk (hlk.subset hn)
  rw [messageLines, ← Text.trim_join hchop, ← Text.unixLines_join hs, Text.join_pieces]

theorem headerLine_eq (s : Text) : headerLine s = (messageLines s).headD [] := by
  have hplain := messageLines_plain s
  rw [headerLine, trim_unixLines]
  cases hls : messageLines s with
  | nil => rfl
  | cons l ls =>
    have hl : ∀ c ∈ l, decide (c ≠ '\n') = true := by
      intro c hc
      rw [decide_eq_true_eq]
      rintro rfl
      exact hplain l (by simp [hls]) hc
    by_cases hne : ls = []
    · subst hne
      exact List.takeWhile_eq_self_iff.mpr hl
    · rw [Text.join_cons _ _ hne, List.append_assoc, List.takeWhile_append_of_pos hl]
      simp

theorem afterHeader_eq (s : Text) : afterHeader s = Text.join ['\n'] (messageLines s).tail := by
  have hplain := messageLines_plain s
  rw [afterHeader, trim_unixLines]
  cases hls : messageLines s with
  | nil => rfl
  | cons l ls =>
    have hl : ∀ c ∈ l, decide (c ≠ '\n') = true := by
      intro c hc
      rw [decide_eq_true_eq]
      rintro rfl
      exact hplain l (by simp [hls]) hc
    by_cases hne : ls = []
    · subst hne
      have hdrop : l.dropWhile (fun c => decide (c ≠ '\n')) = [] :=
        List.dropWhile_eq_nil_iff.mpr hl
      rw [Text.join_singleton, hdrop]
      rfl
    · rw [Text.join_cons _ _ hne, List.append_assoc, List.dropWhile_append_of_pos hl]
      simp

/-- Reading a message in terms of its lines. -/
theorem parse_eq_lines (options : HeaderOptions) (s : Text) :
    parse options s = (Header.parse options ((messageLines s).headD [])).map fun h =>
      make h (joinParagraphs (splitFooters (groups (messageLines s).tail)).1)
        (splitFooters (groups (messageLines s).tail)).2 := by
  have htail : ∀ l ∈ (messageLines s).tail, '\n' ∉ l :=
    fun l hl => messageLines_plain s l (List.mem_of_mem_tail hl)
  rw [parse, headerLine_eq, afterHeader_eq, paragraphsOf_join htail]
  cases Header.parse options ((messageLines s).headD []) <;> rfl

end Reading

/-- A line and the paragraphs after it, with blank lines between them. -/
def written (line : Text) (ps : List (List Text)) : Text :=
  Text.join "\n\n".toList (line :: ps.map (Text.join ['\n']))

section Written

variable {line : Text} {ps : List (List Text)}

theorem written_eq (line : Text) (ps : List (List Text)) :
    written line ps = line ++ if ps = [] then [] else '\n' :: '\n' :: joinParagraphs ps := by
  unfold written
  by_cases hps : ps = []
  · subst hps
    simp
  · rw [Text.join_cons _ _ (by simpa using hps), if_neg hps, List.append_assoc]
    rfl

theorem lines_written (hf : ∀ p ∈ ps, p ≠ []) (hp : ∀ p ∈ ps, ∀ l ∈ p, '\n' ∉ l)
    (hn : '\n' ∉ line) :
    Text.lines (written line ps) = line :: if ps = [] then [] else [] :: spacedLines ps := by
  rw [written_eq]
  by_cases hps : ps = []
  · rw [if_pos hps, if_pos hps, List.append_nil, Text.lines, Text.pieces_eq_singleton hn]
  · have hrest : Text.pieces '\n' ('\n' :: joinParagraphs ps) = [] :: spacedLines ps := by
      rw [← lines_joinParagraphs hf hp hps]
      rfl
    rw [if_neg hps, if_neg hps, Text.lines, Text.pieces_append_cons, hrest,
      Text.pieces_eq_singleton hn]
    rfl

theorem groups_written (hp : Paragraphed ps) :
    groups (if ps = [] then [] else [] :: spacedLines ps) = ps := by
  by_cases hps : ps = []
  · rw [if_pos hps, hps]
    rfl
  · rw [if_neg hps, groups_nil_cons, groups_spacedLines hp]

/-- A written text determines its line and its paragraphs. -/
theorem written_inj {line' : Text} {ps' : List (List Text)} (hp : Paragraphed ps)
    (hp' : Paragraphed ps') (hn : '\n' ∉ line) (hn' : '\n' ∉ line')
    (h : written line ps = written line' ps') : line = line' ∧ ps = ps' := by
  have hlines := congrArg Text.lines h
  rw [lines_written hp.ne_nil hp.line_plain hn, lines_written hp'.ne_nil hp'.line_plain hn',
    List.cons.injEq] at hlines
  obtain ⟨hline, hrest⟩ := hlines
  refine ⟨hline, ?_⟩
  rw [← groups_written hp, ← groups_written hp', hrest]

/-- The lines that a written text is read as, if reading changes no line break. -/
theorem messageLines_written (hp : Paragraphed ps) (hl : line ≠ []) (hn : '\n' ∉ line)
    (hu : Text.unixLines (written line ps) = written line ps) :
    messageLines (written line ps) = line :: if ps = [] then [] else [] :: spacedLines ps := by
  rw [messageLines, ← Text.lines_unixLines, hu,
    lines_written hp.ne_nil hp.line_plain hn]
  apply Text.trimLines_eq_self
  · simpa using hl
  · by_cases hps : ps = []
    · rw [if_pos hps]
      simpa using hl
    · rw [if_neg hps, List.getLast?_cons_cons,
        List.getLast?_cons_of_ne_nil (spacedLines_ne_nil hps hp.ne_nil)]
      exact hp.getLast?_lines

/-- Reading a written text splits its paragraphs, if no line break changes. -/
theorem parse_written {options : HeaderOptions} (hp : Paragraphed ps) (hl : line ≠ [])
    (hn : '\n' ∉ line) (hu : Text.unixLines (written line ps) = written line ps) {h : Header}
    (hh : Header.parse options line = .ok h) :
    parse options (written line ps) =
      .ok (make h (joinParagraphs (splitFooters ps).1) (splitFooters ps).2) := by
  rw [parse_eq_lines, messageLines_written hp hl hn hu, List.headD_cons, List.tail_cons,
    groups_written hp, hh]
  rfl

end Written

end CommitStandard.Message
