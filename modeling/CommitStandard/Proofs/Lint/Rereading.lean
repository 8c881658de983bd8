import Mathlib.Tactic
import CommitStandard.Lint.Basic
import CommitStandard.Proofs.Message.Stability

/-!
# Linting what was written

A linter leaves out comment lines, so that a written message can lose lines of its
body, and everything below a line of its body that looks like the mark of an
editor. The lines of footers are no comments. What is left is read as paragraphs
of lines of the body and then the footers again, unless they were cut off
(`parse_stripComments`).
-/
namespace CommitStandard

/-- Whether a line is left out of a message. -/
def isComment (l : Text) : Bool := ['#'].isPrefixOf l

theorem isComment_eq_false {l : Text} (h : l.head? ≠ some '#') : isComment l = false := by
  cases l with
  | nil => rfl
  | cons c l =>
    have hc : '#' ≠ c := fun h0 => h (by rw [h0]; rfl)
    simp [isComment, List.isPrefixOf, hc]

theorem isScissors_eq_false {l : Text} (h : isComment l = false) : isScissors l = false := by
  rw [← Bool.not_eq_true]
  intro hs
  unfold isScissors at hs
  split at hs
  · exact absurd h (by simp [isComment, List.isPrefixOf])
  · exact absurd hs (by simp)

/-- The lines of a message that are read. -/
def keptLines (ls : List Text) : List Text :=
  (linesAboveScissors ls).filter fun l => !isComment l

theorem stripComments_eq (s : Text) :
    stripComments s = Text.join ['\n'] (keptLines (Text.lines s)) :=
  rfl

/-- Of lines between others that are no comments some are read, and what follows them is read
unless one of them is the mark of an editor. -/
theorem keptLines_cons_append {l : Text} {ls ks : List Text} (hl : isComment l = false)
    (hk : ∀ k ∈ ks, isComment k = false) :
    ∃ js, keptLines (l :: (ls ++ ks)) = l :: (js ++ if ls.any isScissors then [] else ks) ∧
      ∀ j ∈ js, j = [] ∨ j ∈ ls := by
  have hlmark := isScissors_eq_false hl
  have hkmark : ks.any isScissors = false := by
    rw [← Bool.not_eq_true, List.any_eq_true]
    rintro ⟨k, hmem, hmark⟩
    rw [isScissors_eq_false (hk k hmem)] at hmark
    exact absurd hmark (by simp)
  have hany : (l :: (ls ++ ks)).any isScissors = ls.any isScissors := by
    rw [List.any_cons, List.any_append, hlmark, hkmark, Bool.false_or, Bool.or_false]
  have hks : ks.filter (fun k => !isComment k) = ks := by
    rw [List.filter_eq_self]
    intro k hmem
    simp [hk k hmem]
  unfold keptLines linesAboveScissors
  rw [hany]
  cases hmark : ls.any isScissors with
  | true =>
    -- The mark is among `ls`, so that no line after them is taken.
    have htake : (ls ++ ks).takeWhile (fun k => !isScissors k) =
        ls.takeWhile fun k => !isScissors k := by
      rw [List.takeWhile_append, if_neg]
      intro hlen
      have hall : ls.takeWhile (fun k => !isScissors k) = ls :=
        (List.takeWhile_prefix _).eq_of_length hlen
      obtain ⟨k, hmem, hk⟩ := List.any_eq_true.mp hmark
      have := List.takeWhile_eq_self_iff.mp hall k hmem
      simp [hk] at this
    refine ⟨(ls.takeWhile (fun k => !isScissors k) ++ [[]]).filter (fun k => !isComment k), ?_, ?_⟩
    · rw [if_pos rfl, List.takeWhile_cons_of_pos (by simp [hlmark]), htake, List.cons_append,
        List.filter_cons_of_pos (by simp [hl]), if_pos rfl, List.append_nil]
    · intro j hj
      rcases List.mem_append.mp (List.mem_filter.mp hj).1 with hj | hj
      · exact Or.inr ((List.takeWhile_sublist _).subset hj)
      · exact Or.inl (List.mem_singleton.mp hj)
  | false =>
    refine ⟨ls.filter (fun k => !isComment k), ?_, ?_⟩
    · rw [if_neg (by simp), List.filter_cons_of_pos (by simp [hl]), List.filter_append, hks,
        if_neg (by simp)]
    · intro j hj
      exact Or.inr (List.mem_filter.mp hj).1

namespace Message

variable {body : Text} {fs : List Footer}

/-- A body as a paragraph, if it is not empty. -/
def bodyParagraphs (body : Text) : List (List Text) := if body = [] then [] else [Text.lines body]

theorem joinParagraphs_bodyParagraphs (body : Text) :
    joinParagraphs (bodyParagraphs body) = body := by
  unfold bodyParagraphs
  split
  · rename_i h
    rw [h]
    rfl
  · exact Text.join_pieces '\n' body

theorem bodyParagraphs_eq_nil_iff : bodyParagraphs body = [] ↔ body = [] := by
  unfold bodyParagraphs
  split <;> simp [*]

theorem bodyParagraphs_plain : ∀ p ∈ bodyParagraphs body, p ≠ [] ∧ ∀ l ∈ p, '\n' ∉ l := by
  intro p hp
  unfold bodyParagraphs at hp
  split at hp
  · simp at hp
  · rw [List.mem_singleton.mp hp]
    exact ⟨Text.pieces_ne_nil '\n' body, fun l => Text.notMem_of_mem_pieces⟩

theorem mem_gap_bodyParagraphs {l : Text} (h : l ∈ (bodyParagraphs body).flatMap (List.cons [])) :
    l = [] ∨ l ∈ Text.lines body := by
  unfold bodyParagraphs at h
  split at h
  · simp at h
  · simpa using h

theorem any_gap_bodyParagraphs :
    ((bodyParagraphs body).flatMap (List.cons [])).any isScissors =
      (Text.lines body).any isScissors := by
  unfold bodyParagraphs
  split
  · rename_i h
    rw [h]
    rfl
  · simp [isScissors]

theorem mem_gap_footerParagraphs {l : Text}
    (h : l ∈ (footerParagraphs fs).flatMap (List.cons [])) : l = [] ∨ ∃ f ∈ fs, l = f.plain := by
  obtain ⟨p, hp, hl⟩ := List.mem_flatMap.mp h
  obtain ⟨f, hf, rfl⟩ := mem_footerParagraphs hp
  rcases List.mem_cons.mp hl with rfl | hl
  · exact Or.inl rfl
  · exact Or.inr ⟨f, hf, List.mem_singleton.mp hl⟩

/-- Lines before footers are grouped into paragraphs of their own. -/
theorem groups_append_footers (ht : ∀ f ∈ fs, f.Tidy) (ls : List Text) :
    ∃ ps, groups (Text.chopReturns (ls ++ (footerParagraphs fs).flatMap (List.cons []))) =
        ps ++ footerParagraphs fs ∧ ∀ l ∈ ps.flatten, ∃ k ∈ ls, l <+: k := by
  by_cases hfs : fs = []
  · subst hfs
    refine ⟨groups (Text.chopReturns ls), by simp [footerParagraphs], fun l hl => ?_⟩
    exact Text.prefix_of_mem_chopReturns
      (Text.trimLines_subset ((flatten_groups_sublist _).subset hl))
  · have hne : footerParagraphs fs ≠ [] := by simpa [footerParagraphs] using hfs
    have hplain := footerParagraphs_plain ht
    have hfooters : Text.chopReturns ((footerParagraphs fs).flatMap (List.cons [])) =
        (footerParagraphs fs).flatMap (List.cons []) := by
      apply Text.chopReturns_eq_self
      intro l hl
      rcases mem_gap_footerParagraphs hl with rfl | ⟨f, hf, rfl⟩
      · rfl
      · rw [Text.chopReturn, if_neg (ht f hf).getLast?_plain_ne]
    have hgap : (footerParagraphs fs).flatMap (List.cons []) =
        [] :: spacedLines (footerParagraphs fs) := by
      rw [← gap_spacedLines, if_neg hne]
    obtain ⟨ps, hps, hmem⟩ := groups_append_spacedLines (ls.map Text.chopReturn) hne
      (fun p hp => (hplain p hp).1) fun p hp => (hplain p hp).2
    refine ⟨ps, ?_, fun l hl => ?_⟩
    · rw [Text.chopReturns_append ls (by rw [hgap]; simp), hfooters, hgap, hps]
    · obtain ⟨k, hk, rfl⟩ := List.mem_map.mp (hmem l hl)
      exact ⟨k, hk, Text.chopReturn_isPrefix k⟩

/-- The footers of a message that are not cut off with the end of its body. -/
def uncutFooters (body : Text) (fs : List Footer) : List Footer :=
  if (Text.lines body).any isScissors then [] else fs

theorem uncutFooters_subset (body : Text) (fs : List Footer) : uncutFooters body fs ⊆ fs := by
  unfold uncutFooters
  split
  · exact List.nil_subset fs
  · exact List.Subset.refl fs

section Written

variable {line : Text}

theorem lines_written_body (hn : '\n' ∉ line) (ht : ∀ f ∈ fs, f.Tidy) (body : Text) :
    Text.lines (written line (bodyParagraphs body ++ footerParagraphs fs)) =
      line :: ((bodyParagraphs body).flatMap (List.cons []) ++
        (footerParagraphs fs).flatMap (List.cons [])) := by
  have hplain := footerParagraphs_plain ht
  have hparagraph : ∀ p ∈ bodyParagraphs body ++ footerParagraphs fs,
      p ≠ [] ∧ ∀ l ∈ p, '\n' ∉ l := by
    intro p hp
    rcases List.mem_append.mp hp with hp | hp
    · exact bodyParagraphs_plain p hp
    · exact ⟨(hplain p hp).1, fun l hl => ((hplain p hp).2 l hl).1⟩
  rw [lines_written (fun p hp => (hparagraph p hp).1) (fun p hp => (hparagraph p hp).2) hn,
    gap_spacedLines, List.flatMap_append]

/-- The lines of a written message that are read: the first, some of the body, and the lines of
the footers that are not cut off. -/
theorem keptLines_written (hn : '\n' ∉ line) (hc : line.head? ≠ some '#') (ht : ∀ f ∈ fs, f.Tidy)
    (body : Text) :
    ∃ js, keptLines (Text.lines (written line (bodyParagraphs body ++ footerParagraphs fs))) =
        line :: (js ++ (footerParagraphs (uncutFooters body fs)).flatMap (List.cons [])) ∧
      ∀ j ∈ js, j = [] ∨ j ∈ Text.lines body := by
  have hcomment : ∀ l ∈ (footerParagraphs fs).flatMap (List.cons []), isComment l = false := by
    intro l hl
    rcases mem_gap_footerParagraphs hl with rfl | ⟨f, hf, rfl⟩
    · rfl
    · exact isComment_eq_false (ht f hf).head?_plain_ne
  obtain ⟨js, hjs, hmem⟩ := @keptLines_cons_append line
    ((bodyParagraphs body).flatMap (List.cons [])) _ (isComment_eq_false hc) hcomment
  have hfooters : (if ((bodyParagraphs body).flatMap (List.cons [])).any isScissors then []
      else (footerParagraphs fs).flatMap (List.cons [])) =
      (footerParagraphs (uncutFooters body fs)).flatMap (List.cons []) := by
    rw [any_gap_bodyParagraphs, uncutFooters]
    split <;> rfl
  refine ⟨js, ?_, fun j hj => ?_⟩
  · rw [lines_written_body hn ht, hjs, hfooters]
  · rcases hmem j hj with hj | hj
    · exact Or.inl hj
    · exact mem_gap_bodyParagraphs hj

/-- What is read of a written message without its comments: the body has some of its lines, or
beginnings of them, and then the footers up to the last that cannot be read. -/
theorem parse_stripComments {options : HeaderOptions} {h : Header}
    (hh : Header.parse options line = .ok h) (hne : line ≠ []) (hn : '\n' ∉ line)
    (hc : line.head? ≠ some '#') (hr : line.getLast? ≠ some '\r') (ht : ∀ f ∈ fs, f.Tidy)
    (body : Text) :
    ∃ ps gs, parse options
        (stripComments (written line (bodyParagraphs body ++ footerParagraphs fs))) =
          .ok (make h (joinParagraphs (ps ++ footerParagraphs
            ((uncutFooters body fs).rdropWhile Footer.isReadable))) gs) ∧
      Paragraphed (ps ++ footerParagraphs ((uncutFooters body fs).rdropWhile Footer.isReadable)) ∧
      ∀ l ∈ ps.flatten, ∃ k ∈ Text.lines body, l <+: k := by
  have htidy : ∀ f ∈ uncutFooters body fs, f.Tidy :=
    fun f hf => ht f (uncutFooters_subset body fs hf)
  obtain ⟨js, hjs, hmem⟩ := keptLines_written hn hc ht body
  have hjsPlain : ∀ j ∈ js, '\n' ∉ j := by
    intro j hj
    rcases hmem j hj with rfl | hj
    · simp
    · exact Text.notMem_of_mem_pieces hj
  have hplain : ∀ l ∈ line :: (js ++ (footerParagraphs (uncutFooters body fs)).flatMap
      (List.cons [])), '\n' ∉ l := by
    intro l hl
    rcases List.mem_cons.mp hl with rfl | hl
    · exact hn
    rcases List.mem_append.mp hl with hl | hl
    · exact hjsPlain l hl
    rcases mem_gap_footerParagraphs hl with rfl | ⟨f, hf, rfl⟩
    · simp
    · exact (htidy f hf).newline_notMem_plain
  -- Splitting can take paragraphs of the body off as well, which leaves a beginning of `ps`.
  obtain ⟨ps, hps, hbegin⟩ := groups_append_footers htidy js
  have hpara : Paragraphed (ps ++ footerParagraphs (uncutFooters body fs)) := by
    rw [← hps]
    apply paragraphed_groups
    intro l hl
    obtain ⟨k, hk, hlk⟩ := Text.prefix_of_mem_chopReturns hl
    exact fun h0 => hplain k (List.mem_cons_of_mem _ hk) (hlk.subset h0)
  obtain ⟨qs, hqs, hbegins⟩ := splitFooters_footerParagraphs htidy ps
  refine ⟨qs, (splitFooters (ps ++ footerParagraphs (uncutFooters body fs))).2, ?_, ?_, ?_⟩
  · rw [← hqs, stripComments_eq, hjs, parse_eq_lines, messageLines_join hne hr hplain,
      List.headD_cons, List.tail_cons, groups_rdropWhile, hps, hh]
    rfl
  · refine hpara.sublist ?_
    obtain ⟨rs, rfl⟩ := hbegins
    rw [footerParagraphs_eq (uncutFooters body fs), List.append_assoc]
    refine (List.Sublist.refl qs).append ?_
    exact (List.sublist_append_left _ _).trans (List.sublist_append_right _ _)
  · intro l hl
    obtain ⟨k, hk, hlk⟩ := hbegin l (hbegins.sublist.flatten.subset hl)
    rcases hmem k hk with rfl | hk
    · obtain ⟨m, hm⟩ := List.exists_mem_of_ne_nil _ (Text.pieces_ne_nil '\n' body)
      rw [List.prefix_nil.mp hlk]
      exact ⟨m, hm, List.nil_prefix⟩
    · exact ⟨k, hk, hlk⟩

end Written

/-- The lines of a text of paragraphs fit a width if the lines of the paragraphs do. -/
theorem linesFit_joinParagraphs {ps : List (List Text)} (h : Paragraphed ps) (width : Nat) :
    Text.linesFit width (joinParagraphs ps) = true ↔ ∀ l ∈ ps.flatten, l.length ≤ width := by
  unfold Text.linesFit
  rw [List.all_eq_true]
  by_cases hps : ps = []
  · subst hps
    simp [joinParagraphs, Text.lines, Text.pieces]
  · rw [lines_joinParagraphs h.ne_nil h.line_plain hps]
    have hmem : ∀ l, l ∈ ps.flatten ↔ l ∈ spacedLines ps ∧ l ≠ [] := by
      intro l
      rw [← filter_spacedLines h.line_filled, List.mem_filter]
      simp
    constructor
    · intro hall l hl
      have := hall l ((hmem l).mp hl).1
      simpa using this
    · intro hall l hl
      by_cases hl0 : l = []
      · simp [hl0]
      · have := hall l ((hmem l).mpr ⟨hl, hl0⟩)
        simpa using this

end Message

end CommitStandard
