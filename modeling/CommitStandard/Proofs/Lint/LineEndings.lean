import Mathlib.Tactic
import CommitStandard.Proofs.Lint.Rereading
import CommitStandard.Proofs.Message.Stages
import CommitStandard.Proofs.Message.WordedLines

/-!
# Line endings

Comment lines are left out before line breaks are made alike. Where a line break is a carriage
return and a line feed, every line but the last has the carriage return at its end then. A comment
is still seen as one, but the mark below which an editor shows what is not part of the message is
not, and if the last line is a comment, the carriage return of the line break before it is left
over (`lint_windowsLines`).
-/
namespace CommitStandard

namespace Text

/-- The text with a carriage return before every line feed. -/
def windowsLines (s : Text) : Text := s.flatMap fun c => if c = '\n' then ['\r', '\n'] else [c]

/-- Lines with a carriage return at the end of each but the last. -/
def addReturns : List Text → List Text
  | [] => []
  | [l] => [l]
  | l :: m :: ls => (l ++ ['\r']) :: addReturns (m :: ls)

theorem addReturns_concat (ls : List Text) (l : Text) :
    addReturns (ls ++ [l]) = ls.map (· ++ ['\r']) ++ [l] := by
  induction ls with
  | nil => rfl
  | cons k ls ih =>
    obtain ⟨m, ms, hm⟩ := List.exists_cons_of_ne_nil
      (List.append_ne_nil_of_right_ne_nil ls (List.cons_ne_nil l []))
    rw [List.cons_append, hm, addReturns, ← hm, ih]
    rfl

theorem windowsLines_append (s t : Text) :
    windowsLines (s ++ t) = windowsLines s ++ windowsLines t := List.flatMap_append

theorem windowsLines_eq_self {s : Text} (h : '\n' ∉ s) : windowsLines s = s := by
  have hsame : windowsLines s = s.flatMap fun c => [c] := by
    refine List.flatMap_congr fun c hc => if_neg ?_
    rintro rfl
    exact h hc
  rw [hsame, List.flatMap_singleton']

theorem windowsLines_join {ls : List Text} (h : ∀ l ∈ ls, '\n' ∉ l) :
    windowsLines (join ['\n'] ls) = join ['\n'] (addReturns ls) := by
  fun_induction addReturns ls with
  | case1 => rfl
  | case2 l => exact windowsLines_eq_self (h l List.mem_cons_self)
  | case3 l m ls ih =>
    have hne : addReturns (m :: ls) ≠ [] := by cases ls <;> simp [addReturns]
    rw [join_cons _ _ (List.cons_ne_nil m ls), windowsLines_append, windowsLines_append,
      windowsLines_eq_self (h l List.mem_cons_self), ih fun k hk => h k (List.mem_cons_of_mem l hk),
      join_cons _ _ hne, List.append_assoc, List.append_assoc, List.append_assoc]
    rfl

theorem newline_notMem_addReturns {ls : List Text} (h : ∀ l ∈ ls, '\n' ∉ l) :
    ∀ l ∈ addReturns ls, '\n' ∉ l := by
  rcases List.eq_nil_or_concat ls with rfl | ⟨ls, l, rfl⟩
  · simp [addReturns]
  · rw [List.concat_eq_append, addReturns_concat] at *
    intro k hk
    rcases List.mem_append.mp hk with hk | hk
    · obtain ⟨j, hj, rfl⟩ := List.mem_map.mp hk
      simpa using h j (List.mem_append_left _ hj)
    · exact h k (List.mem_append_right _ hk)

/-- Line breaks of two characters are added to the lines. -/
theorem lines_windowsLines (s : Text) : lines (windowsLines s) = addReturns (lines s) := by
  have hs : ∀ l ∈ lines s, '\n' ∉ l := fun l => notMem_of_mem_pieces
  have hne : addReturns (lines s) ≠ [] := by
    obtain ⟨l, ls, hl⟩ := List.exists_cons_of_ne_nil (pieces_ne_nil '\n' s)
    rw [lines, hl]
    cases ls <;> simp [addReturns]
  have hjoin := windowsLines_join hs
  rw [join_pieces] at hjoin
  rw [hjoin]
  exact pieces_join (newline_notMem_addReturns hs) hne

theorem chopReturn_append_return (l : Text) : chopReturn (l ++ ['\r']) = l := by
  simp [chopReturn]

theorem chopReturns_of_dropLast {ls : List Text} (h : ∀ l ∈ ls.dropLast, '\r' ∉ l) :
    chopReturns ls = ls := by
  fun_induction chopReturns ls with
  | case1 => rfl
  | case2 l => rfl
  | case3 l m ls ih =>
    rw [List.dropLast_cons_of_ne_nil (List.cons_ne_nil m ls), List.forall_mem_cons] at h
    rw [ih h.2, chopReturn, if_neg fun hlast => h.1 (List.mem_of_getLast? hlast)]

end Text

/-- A carriage return does not make a comment or hide one. -/
theorem isComment_append_return (l : Text) : isComment (l ++ ['\r']) = isComment l := by
  cases l <;> rfl

/-- A mark has nothing but signs and spaces in it. -/
theorem return_notMem_of_isScissors {l : Text} (h : isScissors l = true) : '\r' ∉ l := by
  unfold isScissors at h
  split at h
  · rename_i rest
    split at h
    · rename_i right hright
      simp only [Bool.and_eq_true, List.all_eq_true, decide_eq_true_eq] at h
      have hsplit := List.takeWhile_append_dropWhile (p := fun c => decide (c = '-')) (l := rest)
      rw [hright] at hsplit
      rw [← hsplit]
      intro hmem
      simp only [List.mem_cons, List.mem_append] at hmem
      rcases hmem with hmem | hmem | hmem | hmem | hmem | hmem | hmem | hmem
      · exact absurd hmem (by decide)
      · exact absurd hmem (by decide)
      · exact absurd (List.mem_takeWhile_imp hmem) (by decide)
      · exact absurd hmem (by decide)
      · exact absurd hmem (by decide)
      · exact absurd hmem (by decide)
      · exact absurd hmem (by decide)
      · exact absurd (h.2 _ hmem) (by decide)
    · cases h
  · cases h

/-- A mark is a comment. -/
theorem isComment_of_isScissors {l : Text} (h : isScissors l = true) : isComment l = true := by
  by_contra hno
  rw [isScissors_eq_false (by simpa using hno)] at h
  cases h

/-- The lines that are read of lines and a last one, where line breaks have two characters. Of
marks, only one in the last line is seen. If that is another comment, a carriage return is left of
the line break before it. -/
def windowsKept (ls : List Text) (last : Text) : List Text :=
  let above := ls.filter fun l => !isComment l
  if isScissors last then above ++ [[]]
  else if isComment last then above.dropLast ++ (above.getLast?.map (· ++ ['\r'])).toList
  else above ++ [last]

section Kept

variable {ls : List Text} {last : Text}

theorem filter_map_return (ls : List Text) :
    (ls.map (· ++ ['\r'])).filter (fun l => !isComment l) =
      (ls.filter fun l => !isComment l).map (· ++ ['\r']) := by
  rw [List.filter_map]
  refine congrArg _ (List.filter_congr fun l _ => ?_)
  rw [Function.comp_apply, isComment_append_return]

/-- Where no other line is a mark, one in the last line leaves an empty line. -/
theorem linesAboveScissors_concat (h : ∀ l ∈ ls, isScissors l = false) (last : Text) :
    linesAboveScissors (ls ++ [last]) = ls ++ [if isScissors last then [] else last] := by
  have hany : ls.any isScissors = false := List.any_eq_false.mpr fun l hl => by simp [h l hl]
  rw [linesAboveScissors, List.any_append, hany, Bool.false_or, List.any_cons, List.any_nil,
    Bool.or_false]
  by_cases hlast : isScissors last = true
  · rw [if_pos hlast, if_pos hlast, List.takeWhile_append_of_pos fun l hl => by simp [h l hl],
      List.takeWhile_cons_of_neg (by simp [hlast]), List.append_nil]
  · rw [if_neg hlast, if_neg hlast]

theorem map_chopReturn_map_return (ls : List Text) :
    (ls.map (· ++ ['\r'])).map Text.chopReturn = ls := by
  rw [List.map_map]
  conv_rhs => rw [← List.map_id ls]
  exact List.map_congr_left fun l _ => Text.chopReturn_append_return l

/-- What is left of the lines once the line breaks are made alike. -/
theorem chopReturns_keptLines_addReturns (ls : List Text) (last : Text) :
    Text.chopReturns (keptLines (Text.addReturns (ls ++ [last]))) = windowsKept ls last := by
  have hnone : ∀ l ∈ ls.map (· ++ ['\r']), isScissors l = false := by
    intro l hl
    obtain ⟨k, -, rfl⟩ := List.mem_map.mp hl
    by_contra hmark
    exact return_notMem_of_isScissors (by simpa using hmark) (by simp)
  obtain ⟨above, habove⟩ : ∃ above, ls.filter (fun l => !isComment l) = above := ⟨_, rfl⟩
  rw [keptLines, Text.addReturns_concat, linesAboveScissors_concat hnone, List.filter_append,
    filter_map_return, windowsKept, habove]
  split
  · rw [List.filter_cons_of_pos (by rfl), List.filter_nil,
      Text.chopReturns_append _ (List.cons_ne_nil _ _), map_chopReturn_map_return]
    rfl
  · split
    · rename_i hcomment
      rw [List.filter_cons_of_neg (by simp [hcomment]), List.filter_nil, List.append_nil]
      -- The line above the comments is the last one now and keeps its carriage return.
      rcases List.eq_nil_or_concat above with rfl | ⟨ks, k, rfl⟩
      · rfl
      · rw [List.concat_eq_append, List.map_append, Text.chopReturns_append _ (by simp),
          map_chopReturn_map_return, List.dropLast_concat, List.getLast?_concat]
        rfl
    · rename_i hcomment
      rw [List.filter_cons_of_pos (by simpa using hcomment), List.filter_nil,
        Text.chopReturns_append _ (List.cons_ne_nil _ _), map_chopReturn_map_return]
      rfl

/-- Where no mark is hidden and the last line is read, the line breaks make no difference. -/
theorem windowsKept_eq_keptLines (hmark : ∀ l ∈ ls, isScissors l = false)
    (hlast : isComment last = true → isScissors last = true) :
    windowsKept ls last = keptLines (ls ++ [last]) := by
  rw [windowsKept, keptLines, linesAboveScissors_concat hmark, List.filter_append]
  split
  · rfl
  · rename_i hno
    rw [if_neg fun hcomment => hno (hlast hcomment),
      List.filter_cons_of_pos (by simpa using fun hcomment => hno (hlast hcomment)),
      List.filter_nil]

/-- Lines above one that is read are read as they are. -/
theorem windowsKept_append {ks : List Text} (h : ∃ k ∈ ks ++ [last], isComment k = false)
    (ls : List Text) : windowsKept (ls ++ ks) last =
      (ls.filter fun l => !isComment l) ++ windowsKept ks last := by
  rw [windowsKept, windowsKept, List.filter_append]
  split
  · exact List.append_assoc _ _ _
  · split
    · rename_i hlast
      obtain ⟨k, hk, hc⟩ := h
      rcases List.mem_append.mp hk with hk | hk
      · have hkept : k ∈ ks.filter fun l => !isComment l := List.mem_filter.mpr ⟨hk, by simp [hc]⟩
        rcases List.eq_nil_or_concat (ks.filter fun l => !isComment l) with h0 | ⟨js, j, hj⟩
        · rw [h0] at hkept
          cases hkept
        · rw [hj, List.concat_eq_append, ← List.append_assoc, List.dropLast_concat,
            List.dropLast_concat, List.getLast?_concat, List.getLast?_concat, List.append_assoc]
      · rw [List.mem_singleton.mp hk, hlast] at hc
        cases hc
    · exact List.append_assoc _ _ _

theorem isBlankText_append_return (l : Text) :
    Text.isBlankText (l ++ ['\r']) = Text.isBlankText l := by
  rw [Text.isBlankText, List.all_append]
  exact Bool.and_true _

/-- Every line with words is read that is no comment, below a mark as well. -/
theorem length_worded_windowsKept (ls : List Text) (last : Text) :
    (Text.worded (windowsKept ls last)).length =
      (Text.worded ((ls ++ [last]).filter fun l => !isComment l)).length := by
  rw [windowsKept, List.filter_append, Text.worded_append]
  split
  · rename_i hmark
    rw [List.filter_cons_of_neg (by simp [isComment_of_isScissors hmark]), Text.worded_append]
    rfl
  · split
    · rename_i hlast
      rw [List.filter_cons_of_neg (by simp [hlast]), List.filter_nil]
      rcases List.eq_nil_or_concat (ls.filter fun l => !isComment l) with h0 | ⟨ks, k, hk⟩
      · rw [h0]
        rfl
      · -- The line that keeps a carriage return has words as before.
        rw [hk, List.concat_eq_append, List.dropLast_concat, List.getLast?_concat,
          Option.map_some, Option.toList_some, Text.worded_append, Text.worded_append,
          Text.worded, Text.worded, Text.worded]
        cases hb : Text.isBlankText k <;> simp [Text.worded, isBlankText_append_return, hb]
    · rename_i hlast
      rw [List.filter_cons_of_pos (by simp [hlast]), List.filter_nil, Text.worded_append]

end Kept

/-- A message text without comments is read as it is. -/
theorem stripComments_join {ls : List Text} (hc : ∀ l ∈ ls, isComment l = false)
    (hn : ∀ l ∈ ls, '\n' ∉ l) : stripComments (Text.join ['\n'] ls) = Text.join ['\n'] ls := by
  by_cases hne : ls = []
  · subst hne
    rfl
  · have hany : ls.any isScissors = false := List.any_eq_false.mpr fun l hl => by
      simp [isScissors_eq_false (hc l hl)]
    have hkept : ls.filter (fun l => !isComment l) = ls := by
      rw [List.filter_eq_self]
      intro l hl
      rw [hc l hl]
      rfl
    rw [stripComments_eq, Text.lines, Text.pieces_join hn hne, keptLines, linesAboveScissors, hany,
      if_neg Bool.false_ne_true, hkept]

namespace Message

/-- The lines that joined lines are read as. -/
theorem messageLines_joinLines {ls : List Text} (hn : ∀ l ∈ ls, '\n' ∉ l) :
    messageLines (Text.join ['\n'] ls) = Text.trimLines (Text.chopReturns ls) := by
  by_cases hne : ls = []
  · subst hne
    rfl
  · rw [messageLines, Text.lines, Text.pieces_join hn hne]

/-- An engine without rules makes nothing of a message. -/
theorem process_noRules (m : Message) (attemptFix : Bool) (files : Option ChangedFiles) :
    m.process ⟨[]⟩ attemptFix files = .ok ⟨m, true, []⟩ := by
  have hidle : ∀ part, ((⟨[]⟩ : Engine).forPart part).rules = [] := fun part => rfl
  obtain ⟨run, hrun⟩ : ∃ run : Run, run = ⟨attemptFix, files⟩ := ⟨_, rfl⟩
  unfold process
  rw [← hrun]
  simp only [processFields_eq_self fun field _ => hidle field.part, processHeader_eq_self (hidle _),
    processBody_eq_self (hidle _), processTexts_eq_self (hidle _), processTokens_eq_self (hidle _),
    processLines_eq_self (hidle _)]
  rfl

end Message

open Message (messageLines messageLines_joinLines)

section Texts

variable {s : Text}

/-- The text that is read of a text once it has line breaks of two characters. -/
def windowsRead (s : Text) : Text :=
  Text.join ['\n'] (windowsKept (Text.lines s).dropLast ((Text.lines s).getLastD []))

theorem dropLast_append_getLastD (s : Text) :
    (Text.lines s).dropLast ++ [(Text.lines s).getLastD []] = Text.lines s := by
  have hne := Text.pieces_ne_nil '\n' s
  rw [List.getLastD_eq_getLast?, List.getLast?_eq_some_getLast hne]
  exact List.dropLast_append_getLast hne

/-- The lines that are read are no comments, and a carriage return is left in the last at most. -/
theorem windowsKept_spec {ls : List Text} {last : Text} (hn : ∀ l ∈ ls ++ [last], '\n' ∉ l)
    (hr : ∀ l ∈ ls, '\r' ∉ l) :
    (∀ l ∈ windowsKept ls last, isComment l = false ∧ '\n' ∉ l) ∧
      ∀ l ∈ (windowsKept ls last).dropLast, '\r' ∉ l := by
  obtain ⟨above, habove⟩ : ∃ above, ls.filter (fun l => !isComment l) = above := ⟨_, rfl⟩
  have hmem : ∀ l ∈ above, isComment l = false ∧ '\n' ∉ l ∧ '\r' ∉ l := by
    intro l hl
    rw [← habove] at hl
    obtain ⟨hl, hc⟩ := List.mem_filter.mp hl
    exact ⟨by simpa using hc, hn l (List.mem_append_left _ hl), hr l hl⟩
  have hconcat : ∀ k : Text, isComment k = false → '\n' ∉ k →
      (∀ l ∈ above ++ [k], isComment l = false ∧ '\n' ∉ l) ∧
        ∀ l ∈ (above ++ [k]).dropLast, '\r' ∉ l := by
    intro k hc hk
    refine ⟨fun l hl => ?_, fun l hl => ?_⟩
    · rcases List.mem_append.mp hl with hl | hl
      · exact ⟨(hmem l hl).1, (hmem l hl).2.1⟩
      · rw [List.mem_singleton.mp hl]
        exact ⟨hc, hk⟩
    · rw [List.dropLast_concat] at hl
      exact (hmem l hl).2.2
  rw [windowsKept, habove]
  split
  · exact hconcat [] rfl List.not_mem_nil
  · split
    · rcases List.eq_nil_or_concat above with rfl | ⟨ks, k, rfl⟩
      · simp
      · rw [List.concat_eq_append] at hmem ⊢
        obtain ⟨hc, hk, -⟩ := hmem k (List.mem_append_right _ List.mem_cons_self)
        rw [List.dropLast_concat, List.getLast?_concat, Option.map_some, Option.toList_some,
          List.dropLast_concat]
        refine ⟨fun l hl => ?_, fun l hl => (hmem l (List.mem_append_left _ hl)).2.2⟩
        rcases List.mem_append.mp hl with hl | hl
        · have hl := hmem l (List.mem_append_left _ hl)
          exact ⟨hl.1, hl.2.1⟩
        · rw [List.mem_singleton.mp hl, isComment_append_return]
          exact ⟨hc, by simpa using hk⟩
    · rename_i hc
      exact hconcat last (by simpa using hc) (hn last (by simp))

theorem char_notMem_keptLines {c : Char} {ls : List Text} (h : ∀ l ∈ ls, c ∉ l) :
    ∀ l ∈ keptLines ls, c ∉ l := by
  intro l hl
  have hl := (List.mem_filter.mp hl).1
  unfold linesAboveScissors at hl
  split at hl
  · rcases List.mem_append.mp hl with hl | hl
    · exact h l ((List.takeWhile_sublist _).subset hl)
    · rw [List.mem_singleton.mp hl]
      exact List.not_mem_nil
  · exact h l hl

/-- The lines that are read of a text with line breaks of two characters. -/
theorem messageLines_stripComments_windowsLines (s : Text) :
    messageLines (stripComments (Text.windowsLines s)) =
      Text.trimLines (windowsKept (Text.lines s).dropLast ((Text.lines s).getLastD [])) := by
  have hn : ∀ l ∈ Text.addReturns (Text.lines s), '\n' ∉ l :=
    Text.newline_notMem_addReturns fun l => Text.notMem_of_mem_pieces
  rw [stripComments_eq, Text.lines_windowsLines,
    messageLines_joinLines (char_notMem_keptLines hn), ← chopReturns_keptLines_addReturns,
    dropLast_append_getLastD]

theorem messageLines_stripComments_windowsRead (hr : '\r' ∉ s) :
    messageLines (stripComments (windowsRead s)) =
      Text.trimLines (windowsKept (Text.lines s).dropLast ((Text.lines s).getLastD [])) := by
  obtain ⟨hplain, hreturn⟩ := @windowsKept_spec (Text.lines s).dropLast ((Text.lines s).getLastD [])
    (fun l hl => Text.notMem_of_mem_pieces (dropLast_append_getLastD s ▸ hl))
    fun l hl hmem => hr (Text.mem_of_mem_pieces (List.mem_of_mem_dropLast hl) hmem)
  rw [windowsRead, stripComments_join (fun l hl => (hplain l hl).1) fun l hl => (hplain l hl).2,
    messageLines_joinLines fun l hl => (hplain l hl).2, Text.chopReturns_of_dropLast hreturn]

theorem messageLines_stripComments_of_notMem (hr : '\r' ∉ s) :
    messageLines (stripComments s) = Text.trimLines (keptLines (Text.lines s)) := by
  have hkept : ∀ l ∈ keptLines (Text.lines s), '\r' ∉ l :=
    char_notMem_keptLines fun l hl hmem => hr (Text.mem_of_mem_pieces hl hmem)
  rw [stripComments_eq, messageLines_joinLines (char_notMem_keptLines fun l =>
    Text.notMem_of_mem_pieces), Text.chopReturns_of_dropLast fun l hl =>
      hkept l (List.mem_of_mem_dropLast hl)]

end Texts

section Linting

variable {l : Linter} {source : Text} {files : Option ChangedFiles} {attemptFix : Bool}

/-- Linting depends on the lines that a text is read as. -/
theorem Linter.lint_congr {s t : Text}
    (h : messageLines (stripComments s) = messageLines (stripComments t)) :
    l.lint ⟨source, s, files⟩ attemptFix = l.lint ⟨source, t, files⟩ attemptFix := by
  simp only [lint, Message.parse_eq_lines, h]

def Linter.bare : Linter := ⟨⟨[]⟩, .standard, none⟩

theorem Linter.lint_bare {s : Text} {m : Message}
    (hm : Message.parse .standard (stripComments s) = .ok m) :
    bare.lint ⟨source, s, files⟩ attemptFix = .ok ⟨source, m, true, []⟩ := by
  simp only [lint, bare, hm, bind, Except.bind, Message.process_noRules]
  rfl

/-- Whether lines have a mark with words below it that it hides, and a line of the message above
it. -/
def HidesWords (ls : List Text) : Prop :=
  ∃ above mark below, ls = above ++ mark :: below ∧
    isScissors mark = true ∧ (∀ k ∈ above, isScissors k = false) ∧
    (∃ k ∈ above, isComment k = false ∧ k ≠ []) ∧
      ∃ k ∈ below, isComment k = false ∧ Text.isBlankText k = false

/-- What a mark hides is read if the line breaks have two characters. -/
theorem HidesWords.exists_windowsKept {ls : List Text} {last : Text}
    (h : HidesWords (ls ++ [last])) : ∃ above more,
      keptLines (ls ++ [last]) = above ++ [[]] ∧ windowsKept ls last = above ++ more ∧
        (∃ k ∈ above, k ≠ []) ∧ Text.worded more ≠ [] := by
  obtain ⟨above, mark, below, hls, hmark, hnone, ⟨k, hk, hkc, hkne⟩, b, hb, hbc, hbw⟩ := h
  obtain ⟨ds, rfl, rfl⟩ : ∃ ds, below = ds ++ [last] ∧ ls = above ++ mark :: ds := by
    rcases List.eq_nil_or_concat below with rfl | ⟨ds, z, rfl⟩
    · cases hb
    · rw [List.concat_eq_append, ← List.cons_append, ← List.append_assoc] at hls
      obtain ⟨hls, hlast⟩ := List.append_inj' hls rfl
      rw [List.concat_eq_append, List.cons.inj hlast |>.1]
      exact ⟨ds, rfl, hls⟩
  have hmarkc := isComment_of_isScissors hmark
  refine ⟨above.filter fun l => !isComment l, ?_⟩
  have hkept : keptLines (above ++ mark :: ds ++ [last]) =
      (above.filter fun l => !isComment l) ++ [[]] := by
    have hany : (above ++ mark :: ds ++ [last]).any isScissors = true :=
      List.any_eq_true.mpr ⟨mark, by simp, hmark⟩
    rw [keptLines, linesAboveScissors, if_pos hany, List.append_assoc,
      List.takeWhile_append_of_pos fun l hl => by simp [hnone l hl], List.cons_append,
      List.takeWhile_cons_of_neg (by simp [hmark]), List.append_nil, List.filter_append]
    rfl
  have hwindows : windowsKept (above ++ mark :: ds) last =
      (above.filter fun l => !isComment l) ++ windowsKept ds last := by
    rw [← List.singleton_append, ← List.append_assoc, windowsKept_append ⟨b, hb, hbc⟩,
      List.filter_append, List.filter_cons_of_neg (by simp [hmarkc]), List.filter_nil,
      List.append_nil]
  refine ⟨windowsKept ds last, hkept, hwindows,
    ⟨k, List.mem_filter.mpr ⟨hk, by simp [hkc]⟩, hkne⟩, ?_⟩
  rw [← List.length_pos_iff, length_worded_windowsKept, List.length_pos_iff]
  intro hnone
  rw [Text.worded_eq_nil_iff.mp hnone b (List.mem_filter.mpr ⟨hb, by simp [hbc]⟩)] at hbw
  cases hbw

/-- A line above that is not empty is the header line, whatever follows. -/
theorem exists_trimLines_append {above : List Text} (h : ∃ k ∈ above, k ≠ []) :
    ∃ line rest, ∀ more, Text.trimLines (above ++ more) =
      line :: (rest ++ more).rdropWhile List.isEmpty := by
  obtain ⟨k, hk, hne⟩ := h
  have hdrop : above.dropWhile List.isEmpty ≠ [] := by
    intro h0
    rw [List.dropWhile_eq_nil_iff] at h0
    exact hne (List.isEmpty_iff.mp (h0 k hk))
  obtain ⟨line, rest, hline⟩ := List.exists_cons_of_ne_nil hdrop
  refine ⟨line, rest, fun more => Text.trimLines_of_dropWhile ?_⟩
  rw [List.dropWhile_append, hline, if_neg (by simp), List.cons_append]

/-- What a mark hides is in the message if the line breaks have two characters. -/
theorem render_ne_of_hidesWords {s : Text} (hr : '\r' ∉ s) (h : HidesWords (Text.lines s))
    {m m' : Message} (hm : Message.parse .standard (stripComments (Text.windowsLines s)) = .ok m)
    (hm' : Message.parse .standard (stripComments s) = .ok m') : m.render ≠ m'.render := by
  rw [← dropLast_append_getLastD] at h
  obtain ⟨above, more, hkept, hwindows, hfull, hmore⟩ := h.exists_windowsKept
  obtain ⟨line, rest, hlines⟩ := exists_trimLines_append hfull
  obtain ⟨ps, hread, hlength⟩ := Message.length_worded_of_parse hm
  obtain ⟨qs, hread', hlength'⟩ := Message.length_worded_of_parse hm'
  rw [messageLines_stripComments_windowsLines, hwindows, hlines, List.tail_cons,
    Message.worded_rdropWhile, Text.worded_append] at hlength
  rw [messageLines_stripComments_of_notMem hr, ← dropLast_append_getLastD, hkept, hlines,
    List.tail_cons, Message.worded_rdropWhile, Text.worded_append] at hlength'
  intro hrender
  rw [((hread'.render_eq_iff hread).mp hrender).2, hlength'] at hlength
  have hpos := List.length_pos_iff.mpr hmore
  have hnone : Text.worded [[]] = [] := rfl
  rw [hnone, List.length_append, List.length_append, List.length_nil] at hlength
  omega

/-- A text with line breaks of two characters is linted like its lines that are no comments, where
only a mark in the last line counts as a mark. The line breaks make no difference if no other line
is a mark and the last line is no other comment. They do make one if a mark hides words. -/
theorem lint_windowsLines {s : Text} (hr : '\r' ∉ s) (l : Linter) (source : Text)
    (files : Option ChangedFiles) (attemptFix : Bool) :
    l.lint ⟨source, Text.windowsLines s, files⟩ attemptFix =
        l.lint ⟨source, windowsRead s, files⟩ attemptFix ∧
      ((∀ k ∈ (Text.lines s).dropLast, isScissors k = false) →
        (isComment ((Text.lines s).getLastD []) = true →
          isScissors ((Text.lines s).getLastD []) = true) →
        l.lint ⟨source, Text.windowsLines s, files⟩ attemptFix =
          l.lint ⟨source, s, files⟩ attemptFix) ∧
      (HidesWords (Text.lines s) → ∃ r r',
        Linter.bare.lint ⟨source, Text.windowsLines s, files⟩ attemptFix = .ok r ∧
        Linter.bare.lint ⟨source, s, files⟩ attemptFix = .ok r' ∧
        r.message.render ≠ r'.message.render) := by
  refine ⟨?_, fun hmark hlast => ?_, fun hhides => ?_⟩
  · apply Linter.lint_congr
    rw [messageLines_stripComments_windowsLines, messageLines_stripComments_windowsRead hr]
  · apply Linter.lint_congr
    rw [messageLines_stripComments_windowsLines, windowsKept_eq_keptLines hmark hlast,
      dropLast_append_getLastD, messageLines_stripComments_of_notMem hr]
  · obtain ⟨m, hm⟩ := Message.exists_parse (stripComments (Text.windowsLines s))
    obtain ⟨m', hm'⟩ := Message.exists_parse (stripComments s)
    exact ⟨_, _, Linter.lint_bare hm, Linter.lint_bare hm',
      render_ne_of_hidesWords hr hhides hm hm'⟩

/-- A message as an editor leaves it. -/
def editedMessage : Text := "feat: Add parser\n# On branch main\n".toList

/-- A message with its changes below a mark. -/
def verboseMessage : Text :=
  ("feat: Add parser\n# ------------------------ >8 ------------------------\n" ++
    "diff --git a/x b/x\n").toList

theorem lint_windowsLines_editedMessage :
    ('\r' ∉ editedMessage ∧
      (∀ k ∈ (Text.lines editedMessage).dropLast, isScissors k = false) ∧
      (isComment ((Text.lines editedMessage).getLastD []) = true →
        isScissors ((Text.lines editedMessage).getLastD []) = true) ∧
      Linter.bare.lint ⟨[], Text.windowsLines editedMessage, none⟩ true =
        Linter.bare.lint ⟨[], editedMessage, none⟩ true) ∧
    '\r' ∉ verboseMessage ∧ HidesWords (Text.lines verboseMessage) ∧ ∃ r r',
      Linter.bare.lint ⟨[], Text.windowsLines verboseMessage, none⟩ true = .ok r ∧
      Linter.bare.lint ⟨[], verboseMessage, none⟩ true = .ok r' ∧
      r.message.render ≠ r'.message.render := by
  have hr : '\r' ∉ editedMessage := by decide
  have hmark : ∀ k ∈ (Text.lines editedMessage).dropLast, isScissors k = false := by decide
  have hlast : isComment ((Text.lines editedMessage).getLastD []) = true →
      isScissors ((Text.lines editedMessage).getLastD []) = true := by decide
  have hr' : '\r' ∉ verboseMessage := by decide
  have hhides : HidesWords (Text.lines verboseMessage) :=
    ⟨["feat: Add parser".toList], "# ------------------------ >8 ------------------------".toList,
      ["diff --git a/x b/x".toList, []], by decide, by decide, by decide,
      ⟨_, List.mem_cons_self, by decide, by decide⟩, _, List.mem_cons_self, by decide, by decide⟩
  exact ⟨⟨hr, hmark, hlast, (lint_windowsLines hr Linter.bare [] none true).2.1 hmark hlast⟩,
    hr', hhides, (lint_windowsLines hr' Linter.bare [] none true).2.2 hhides⟩

/-- The mark is not seen, so that the changes are linted with the message. -/
theorem lint_windowsLines_verboseMessage :
    '\r' ∉ verboseMessage ∧
      ∃ r r', Linter.bare.lint ⟨[], Text.windowsLines verboseMessage, none⟩ false = .ok r ∧
        Linter.bare.lint ⟨[], verboseMessage, none⟩ false = .ok r' ∧
        r.message.render = "feat: Add parser\n\ndiff --git a/x b/x".toList ∧
        r'.message.render = "feat: Add parser".toList ∧ r.message.render ≠ r'.message.render :=
  ⟨by decide, _, _, Linter.lint_bare rfl, Linter.lint_bare rfl, by decide +kernel,
    by decide +kernel, by decide +kernel⟩

end Linting

end CommitStandard
