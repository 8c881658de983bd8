import Mathlib.Data.List.ModifyLast
import Mathlib.Tactic
import CommitStandard.Proofs.Message.WordedLines

/-!
# How blank lines are spelled

A blank line separates paragraphs, whether it is empty or has spaces and tabs in it. Yet the first
line that is not empty is the header line, even if it is blank, and blank lines can be read with
the first and with the last paragraph below it. Texts that differ only in the spelling of their
blank lines are read alike exactly if the same blank lines are read in these places
(`parse_eq_iff_of_sameLines`). So blank lines can be emptied where they stand between other lines
(`parse_emptyBlankLines`).
-/
namespace CommitStandard.Message

/-- Whether lines are the same, or both of spaces and tabs only. -/
def SameLine (l k : Text) : Prop := l = k ∨ isBlankLine l = true ∧ isBlankLine k = true

/-- Whether lines differ only in the spelling of blank lines. -/
abbrev SameLines : List Text → List Text → Prop := List.Forall₂ SameLine

section Same

variable {l k : Text} {ls ks : List Text}

theorem SameLine.isBlankText_eq (h : SameLine l k) : Text.isBlankText l = Text.isBlankText k := by
  rcases h with rfl | ⟨hl, hk⟩
  · rfl
  · rw [isBlankText_of_isBlankLine hl, isBlankText_of_isBlankLine hk]

theorem SameLine.eq_of_isBlankText (h : SameLine l k) (hl : Text.isBlankText l = false) :
    l = k := by
  rcases h with rfl | ⟨hblank, -⟩
  · rfl
  · rw [isBlankText_of_isBlankLine hblank] at hl
    cases hl

theorem SameLines.dropWhile (h : SameLines ls ks) :
    SameLines (ls.dropWhile Text.isBlankText) (ks.dropWhile Text.isBlankText) := by
  induction h with
  | nil => exact List.Forall₂.nil
  | @cons l k ls ks hl hrest ih =>
    cases hb : Text.isBlankText l with
    | true =>
      rw [List.dropWhile_cons_of_pos hb, List.dropWhile_cons_of_pos (hl.isBlankText_eq ▸ hb)]
      exact ih
    | false =>
      rw [List.dropWhile_cons_of_neg (by simp [hb]),
        List.dropWhile_cons_of_neg (by simp [← hl.isBlankText_eq, hb])]
      exact List.Forall₂.cons hl hrest

theorem SameLines.rdropWhile (h : SameLines ls ks) :
    SameLines (ls.rdropWhile Text.isBlankText) (ks.rdropWhile Text.isBlankText) :=
  List.forall₂_reverse_iff.mpr (SameLines.dropWhile (List.forall₂_reverse_iff.mpr h))

theorem SameLines.worded_eq (h : SameLines ls ks) : Text.worded ls = Text.worded ks := by
  induction h with
  | nil => rfl
  | @cons l k ls ks hl hrest ih =>
    rw [← List.singleton_append, ← @List.singleton_append _ k, Text.worded_append,
      Text.worded_append, ih]
    cases hb : Text.isBlankText l with
    | true => simp [Text.worded, hb, ← hl.isBlankText_eq]
    | false => rw [hl.eq_of_isBlankText hb]

/-- The spelling of blank lines before another line has no effect on paragraphs. -/
theorem SameLines.groupFrom_eq (h : SameLines ls ks) {z : Text} (current : List Text) :
    groupFrom current (ls ++ [z]) = groupFrom current (ks ++ [z]) := by
  induction h generalizing current with
  | nil => rfl
  | @cons l k ls ks hl _ ih =>
    rw [List.cons_append, List.cons_append, groupFrom, groupFrom, ih, ih]
    rcases hl with rfl | ⟨hl, hk⟩
    · simp
    · rw [hl, hk]
      simp

end Same

theorem forall₂_concat {α β : Type} {R : α → β → Prop} {as : List α} {bs : List β} {a : α} {b : β}
    (h : List.Forall₂ R (as ++ [a]) (bs ++ [b])) : List.Forall₂ R as bs ∧ R a b := by
  have hr := List.forall₂_reverse_iff.mpr h
  rw [List.reverse_concat, List.reverse_concat] at hr
  cases hr with
  | cons hlast hrest => exact ⟨List.forall₂_reverse_iff.mp hrest, hlast⟩

section Edges

variable {current lead ls : List Text}

/-- Blank lines make blank paragraphs. -/
theorem isBlankParagraph_of_mem_groupFrom (hc : ∀ l ∈ current, Text.isBlankText l = true)
    (hl : ∀ l ∈ ls, Text.isBlankText l = true) {p : List Text} (hp : p ∈ groupFrom current ls) :
    isBlankParagraph p = true := by
  refine List.all_eq_true.mpr fun l hlp => ?_
  have hmem := List.mem_flatten.mpr ⟨p, hp, hlp⟩
  rw [flatten_groupFrom] at hmem
  rcases List.mem_append.mp hmem with hmem | hmem
  · exact hc l (List.mem_reverse.mp hmem)
  rcases List.mem_append.mp hmem with hmem | hmem
  · exact hl l (List.mem_of_mem_dropLast (List.mem_filter.mp hmem).1)
  · exact hl l (List.mem_of_getLast? (Option.mem_toList.mp hmem))

theorem filter_eq_nil_of_blank {ps : List (List Text)} (h : ∀ p ∈ ps, isBlankParagraph p = true) :
    ps.filter (fun p => !isBlankParagraph p) = [] :=
  List.filter_eq_nil_iff.mpr fun p hp => by simp [h p hp]

/-- Of blank lines some are read with the line that follows them. -/
theorem groupFrom_blank_append (hc : ∀ l ∈ current, Text.isBlankText l = true)
    (hl : ∀ l ∈ ls, Text.isBlankText l = true) (k : Text) (ks : List Text) :
    ∃ ps lead, groupFrom current (ls ++ k :: ks) = ps ++ groupFrom lead (k :: ks) ∧
      (∀ p ∈ ps, isBlankParagraph p = true) ∧ ∀ l ∈ lead, Text.isBlankText l = true := by
  induction ls generalizing current with
  | nil => exact ⟨[], current, rfl, by simp, hc⟩
  | cons l ls ih =>
    rw [List.forall_mem_cons] at hl
    have hrest : (ls ++ k :: ks).isEmpty = false := by simp
    rw [List.cons_append, groupFrom, hrest]
    cases hb : isBlankLine l with
    | false =>
      obtain ⟨ps, lead, hgroups, hps, hlead⟩ :=
        @ih (l :: current) (List.forall_mem_cons.mpr ⟨hl.1, hc⟩) hl.2
      exact ⟨ps, lead, by simpa using hgroups, hps, hlead⟩
    | true =>
      obtain ⟨ps, lead, hgroups, hps, hlead⟩ := @ih [] (by simp) hl.2
      cases hempty : current.isEmpty with
      | true => exact ⟨ps, lead, by simpa using hgroups, hps, hlead⟩
      | false =>
        refine ⟨current.reverse :: ps, lead, by simpa using hgroups, ?_, hlead⟩
        rw [List.forall_mem_cons]
        refine ⟨List.all_eq_true.mpr fun l hl => hc l (List.mem_reverse.mp hl), hps⟩

/-- Lines that were read before are the first of the first paragraph. -/
theorem groupFrom_append_right (hne : current ≠ []) (lead ls : List Text) :
    ∃ p ps, groupFrom current ls = (current.reverse ++ p) :: ps ∧
      groupFrom (current ++ lead) ls = (lead.reverse ++ (current.reverse ++ p)) :: ps := by
  induction ls generalizing current with
  | nil => exact ⟨[], [], by simp [groupFrom], by simp [groupFrom]⟩
  | cons l ls ih =>
    rw [groupFrom, groupFrom]
    split
    · refine ⟨[], groupFrom [] ls, ?_, ?_⟩
      · simp [hne]
      · simp [hne]
    · obtain ⟨p, ps, hgroups, hlead⟩ := @ih (l :: current) (List.cons_ne_nil l current)
      refine ⟨l :: p, ps, by simpa using hgroups, by simpa using hlead⟩

/-- Of blank lines some are read with the line that they follow. -/
theorem groupFrom_append_blank (hne : current ≠ [])
    (hl : ∀ l ∈ ls, Text.isBlankText l = true) :
    ∃ trail ps, groupFrom current ls = (current.reverse ++ trail) :: ps ∧
      (∀ p ∈ ps, isBlankParagraph p = true) ∧ ∀ l ∈ trail, Text.isBlankText l = true := by
  induction ls generalizing current with
  | nil => exact ⟨[], [], by simp [groupFrom], by simp, by simp⟩
  | cons l ls ih =>
    rw [List.forall_mem_cons] at hl
    rw [groupFrom]
    split
    · refine ⟨[], groupFrom [] ls, by simp [hne], fun p hp => ?_, by simp⟩
      exact isBlankParagraph_of_mem_groupFrom (by simp) hl.2 hp
    · obtain ⟨trail, ps, hgroups, hps, htrail⟩ := @ih (l :: current) (List.cons_ne_nil _ _) hl.2
      exact ⟨l :: trail, ps, by simpa using hgroups, hps, List.forall_mem_cons.mpr ⟨hl.1, htrail⟩⟩

/-- Blank lines at the end change the last paragraph only. -/
theorem groupFrom_append_word {z : Text} (hz : Text.isBlankText z = false)
    (hl : ∀ l ∈ ls, Text.isBlankText l = true) (ks current : List Text) :
    ∃ qs q trail ps, groupFrom current (ks ++ [z]) = qs ++ [q ++ [z]] ∧
      groupFrom current (ks ++ z :: ls) = qs ++ (q ++ z :: trail) :: ps ∧
      (∀ p ∈ ps, isBlankParagraph p = true) ∧ ∀ l ∈ trail, Text.isBlankText l = true := by
  induction ks generalizing current with
  | nil =>
    obtain ⟨trail, ps, hgroups, hps, htrail⟩ :=
      groupFrom_append_blank (List.cons_ne_nil z current) hl
    refine ⟨[], current.reverse, trail, ps, groupFrom_last current z, ?_, hps, htrail⟩
    rw [List.nil_append, groupFrom, isBlankLine_of_isBlankText hz]
    simpa using hgroups
  | cons k ks ih =>
    have hrest : ∀ more, (ks ++ z :: more).isEmpty = false := by simp
    rw [List.cons_append, List.cons_append, groupFrom, groupFrom, hrest, hrest]
    cases hb : isBlankLine k with
    | false => simpa using ih (k :: current)
    | true =>
      obtain ⟨qs, q, trail, ps, hend, hgroups, hps, htrail⟩ := ih []
      cases hempty : current.isEmpty with
      | true => exact ⟨qs, q, trail, ps, by simpa using hend, by simpa using hgroups, hps, htrail⟩
      | false =>
        exact ⟨current.reverse :: qs, q, trail, ps, by simpa using hend, by simpa using hgroups,
          hps, htrail⟩

end Edges

section Middle

variable {before mid rest after : List Text} {v z : Text}

theorem trimLines_middle (hv : v ≠ []) (hz : z ≠ []) (hmid : v :: rest = mid ++ [z]) :
    Text.trimLines (before ++ (v :: rest ++ after)) =
      before.dropWhile List.isEmpty ++ (v :: rest ++ after.rdropWhile List.isEmpty) := by
  have hfull : z.isEmpty = false := by simpa using hz
  have hend : (z :: after).rdropWhile List.isEmpty = z :: after.rdropWhile List.isEmpty :=
    Text.rdropWhile_cons hfull after
  have hstart : (before ++ (v :: rest ++ after)).dropWhile List.isEmpty =
      before.dropWhile List.isEmpty ++ (v :: rest ++ after) := by
    rw [List.dropWhile_append]
    split
    · rename_i hempty
      rw [List.isEmpty_iff.mp hempty, List.cons_append,
        List.dropWhile_cons_of_neg (by simpa using hv), List.nil_append]
    · rfl
  rw [Text.trimLines, Text.trimEnds, hstart, hmid, List.append_assoc, List.append_assoc,
    ← List.append_assoc, List.singleton_append,
    Text.rdropWhile_append_of_ne_nil _ (by rw [hend]; exact List.cons_ne_nil _ _), hend]
  simp

/-- Lines that begin and end with words are grouped without cutting anything off. -/
theorem groups_middle (hv : Text.isBlankText v = false) (hz : Text.isBlankText z = false)
    (hmid : v :: rest = mid ++ [z]) :
    groups (v :: rest) = (groupFrom [v] rest).filter fun p => !isBlankParagraph p := by
  have hne : ∀ {l : Text}, Text.isBlankText l = false → l ≠ [] := by
    rintro l hl rfl
    cases hl
  have htrim := @trimLines_middle [] mid rest [] v z (hne hv) (hne hz) hmid
  rw [List.dropWhile_nil, List.rdropWhile_nil, List.append_nil, List.nil_append] at htrim
  rw [groups, htrim]
  rfl

theorem isBlankParagraph_of_mem {p : List Text} (hz : Text.isBlankText z = false) (h : z ∈ p) :
    isBlankParagraph p = false := by
  by_contra hp
  have hblank : isBlankParagraph p = true := by simpa using hp
  rw [List.all_eq_true.mp hblank z h] at hz
  cases hz

/-- Grouping begins at a line with words, or with blank lines before it. -/
theorem exists_groups_middle (hb : ∀ l ∈ before, Text.isBlankText l = true)
    (hv : Text.isBlankText v = false) (hz : Text.isBlankText z = false)
    (hmid : v :: rest = mid ++ [z]) (after : List Text) :
    ∃ ps lead, groups (before ++ (v :: rest ++ after)) = (ps ++
        groupFrom lead (v :: rest ++ after.rdropWhile List.isEmpty)).filter
          (fun p => !isBlankParagraph p) ∧
      (∀ p ∈ ps, isBlankParagraph p = true) ∧ ∀ l ∈ lead, Text.isBlankText l = true := by
  have hne : ∀ {l : Text}, Text.isBlankText l = false → l ≠ [] := by
    rintro l hl rfl
    cases hl
  rw [groups, trimLines_middle (hne hv) (hne hz) hmid]
  cases hbefore : before.dropWhile List.isEmpty with
  | nil =>
    refine ⟨[], [], ?_, by simp, by simp⟩
    rw [List.nil_append, List.cons_append, List.nil_append, groupLines, groupFrom,
      isBlankLine_of_isBlankText hv]
    simp
  | cons l ls =>
    have hblank : ∀ k ∈ l :: ls, Text.isBlankText k = true :=
      fun k hk => hb k ((List.dropWhile_sublist _).subset (hbefore ▸ hk))
    rw [List.forall_mem_cons] at hblank
    obtain ⟨ps, lead, hgroups, hps, hlead⟩ := @groupFrom_blank_append [l] ls
      (by simpa using hblank.1) hblank.2 v (rest ++ after.rdropWhile List.isEmpty)
    exact ⟨ps, lead, congrArg _ hgroups, hps, hlead⟩

/-- Blank lines around lines with words at both ends are left out, except for those that are read
with the first and the last of these. -/
theorem groups_eq_modify (hb : ∀ l ∈ before, Text.isBlankText l = true)
    (ha : ∀ l ∈ after, Text.isBlankText l = true) (hv : Text.isBlankText v = false)
    (hz : Text.isBlankText z = false) (hmid : v :: rest = mid ++ [z]) {ps : List (List Text)}
    (hps : groups (before ++ (v :: rest ++ after)) = ps) :
    ps = ((groups (v :: rest)).modifyHead (ps.flatten.takeWhile Text.isBlankText ++ ·)).modifyLast
      (· ++ ps.flatten.rtakeWhile Text.isBlankText) := by
  obtain ⟨keep, hkeep⟩ : ∃ keep : List Text → Bool, keep = fun p => !isBlankParagraph p := ⟨_, rfl⟩
  have hkept : ∀ {p : List Text} {l : Text}, Text.isBlankText l = false → l ∈ p → keep p = true :=
    fun hl hp => by simp [hkeep, isBlankParagraph_of_mem hl hp]
  have hafter : ∀ l ∈ after.rdropWhile List.isEmpty, Text.isBlankText l = true :=
    fun l hl => ha l ((List.rdropWhile_prefix _ _).subset hl)
  obtain ⟨ps₀, lead, hgroups, hps₀, hlead⟩ := exists_groups_middle hb hv hz hmid after
  obtain ⟨qs, q, trail, ps₁, hend, hlast, hps₁, htrail⟩ := groupFrom_append_word hz hafter mid lead
  obtain ⟨p, ps₂, hfirst, hleft⟩ := groupFrom_append_right (List.cons_ne_nil v []) lead rest
  have hstart : groupFrom lead (v :: rest) = groupFrom ([v] ++ lead) rest := by
    rw [groupFrom, isBlankLine_of_isBlankText hv]
    simp
  have hmiddle : groups (v :: rest) = (v :: p) :: ps₂.filter keep := by
    rw [groups_middle hv hz hmid, ← hkeep, hfirst]
    exact List.filter_cons_of_pos (hkept hv (by simp))
  have hblank : ∀ {rs : List (List Text)}, (∀ r ∈ rs, isBlankParagraph r = true) →
      rs.filter keep = [] := fun h => hkeep ▸ filter_eq_nil_of_blank h
  -- The same paragraphs, once from the first one and once up to the last one.
  have hfront : (groupFrom lead (v :: rest)).filter keep =
      (lead.reverse ++ v :: p) :: ps₂.filter keep := by
    rw [hstart, hleft]
    exact List.filter_cons_of_pos (hkept hv (by simp))
  have hback : (groupFrom lead (v :: rest)).filter keep = qs.filter keep ++ [q ++ [z]] := by
    rw [hmid, hend, List.filter_append, List.filter_cons_of_pos (hkept hz (by simp)),
      List.filter_nil]
  have hwhole : ps = qs.filter keep ++ [q ++ z :: trail] := by
    rw [← hps, hgroups, ← hkeep, hmid, List.append_assoc, List.singleton_append, hlast,
      List.filter_append, hblank hps₀, List.nil_append, List.filter_append,
      List.filter_cons_of_pos (hkept hz (by simp)), hblank hps₁]
  have hflat : ps.flatten = lead.reverse ++ v :: (p ++ (ps₂.filter keep).flatten ++ trail) := by
    have hsame := congrArg List.flatten (hback.symm.trans hfront)
    rw [List.flatten_append, List.flatten_singleton, List.flatten_cons] at hsame
    calc ps.flatten = (qs.filter keep).flatten ++ (q ++ [z]) ++ trail := by rw [hwhole]; simp
      _ = lead.reverse ++ v :: p ++ (ps₂.filter keep).flatten ++ trail := by rw [hsame]
      _ = lead.reverse ++ v :: (p ++ (ps₂.filter keep).flatten ++ trail) := by simp
  have htake : ps.flatten.takeWhile Text.isBlankText = lead.reverse := by
    rw [hflat, List.takeWhile_append_of_pos fun l hl => hlead l (List.mem_reverse.mp hl),
      List.takeWhile_cons_of_neg (by simp [hv]), List.append_nil]
  have hrtake : ps.flatten.rtakeWhile Text.isBlankText = trail := by
    rw [hwhole, List.rtakeWhile, List.flatten_append, List.flatten_singleton, List.reverse_append,
      List.reverse_append, List.reverse_cons, List.append_assoc, List.append_assoc,
      List.takeWhile_append_of_pos fun l hl => htrail l (List.mem_reverse.mp hl),
      List.singleton_append, List.takeWhile_cons_of_neg (by simp [hz]), List.append_nil,
      List.reverse_reverse]
  rw [htake, hrtake, hmiddle, List.modifyHead_cons, ← hfront, hback, List.modifyLast_concat, hwhole,
    List.append_assoc, List.singleton_append]

/-- Lines with words at both ends and the spelling of their blank lines. -/
theorem groups_eq_of_sameLines {ls ks : List Text} (h : SameLines ls ks)
    (hv : Text.isBlankText v = false) (hz : Text.isBlankText z = false)
    {ls' ks' : List Text} (hl : ls ++ [z] = v :: ls') (hk : ks ++ [z] = v :: ks') :
    groups (ls ++ [z]) = groups (ks ++ [z]) := by
  have hgroups : ∀ {ms ms' : List Text}, ms ++ [z] = v :: ms' →
      groups (ms ++ [z]) = (groupFrom [] (ms ++ [z])).filter fun p => !isBlankParagraph p := by
    intro ms ms' hm
    rw [hm, groups_middle hv hz hm.symm, groupFrom, isBlankLine_of_isBlankText hv]
    simp
  rw [hgroups hl, hgroups hk, h.groupFrom_eq]

/-- Blank lines alone have no paragraphs. -/
theorem groups_eq_nil {ls : List Text} (h : ∀ l ∈ ls, Text.isBlankText l = true) :
    groups ls = [] := by
  have hnone : Text.worded (groups ls).flatten = [] := by
    rw [worded_groups, Text.worded_eq_nil_iff.mpr h]
  refine List.eq_nil_iff_forall_not_mem.mpr fun p hp => ?_
  have hblank : isBlankParagraph p = true := List.all_eq_true.mpr fun l hl =>
    Text.worded_eq_nil_iff.mp hnone l (List.mem_flatten.mpr ⟨p, hp, hl⟩)
  simpa [hblank] using (List.mem_filter.mp hp).2

/-- Lines are blank, or blank lines around lines with words at both ends. -/
theorem groups_cases (ls : List Text) :
    (Text.trimEnds Text.isBlankText ls = [] ∧ groups ls = []) ∨
      ∃ v rest mid z, Text.trimEnds Text.isBlankText ls = v :: rest ∧ v :: rest = mid ++ [z] ∧
        Text.isBlankText v = false ∧ Text.isBlankText z = false ∧
        groups ls = ((groups (v :: rest)).modifyHead
          ((groups ls).flatten.takeWhile Text.isBlankText ++ ·)).modifyLast
            (· ++ (groups ls).flatten.rtakeWhile Text.isBlankText) := by
  have hsplit : ls = ls.takeWhile Text.isBlankText ++ (Text.trimEnds Text.isBlankText ls ++
      (ls.dropWhile Text.isBlankText).rtakeWhile Text.isBlankText) := by
    rw [Text.trimEnds, List.rdropWhile_append_rtakeWhile, List.takeWhile_append_dropWhile]
  have hbefore : ∀ l ∈ ls.takeWhile Text.isBlankText, Text.isBlankText l = true :=
    fun l => List.mem_takeWhile_imp
  have hafter : ∀ l ∈ (ls.dropWhile Text.isBlankText).rtakeWhile Text.isBlankText,
      Text.isBlankText l = true := fun l => List.mem_rtakeWhile_imp
  cases hcore : Text.trimEnds Text.isBlankText ls with
  | nil =>
    rw [hcore, List.nil_append] at hsplit
    refine Or.inl ⟨rfl, groups_eq_nil fun l hl => ?_⟩
    rw [hsplit] at hl
    rcases List.mem_append.mp hl with hl | hl
    · exact hbefore l hl
    · exact hafter l hl
  | cons v rest =>
    rw [hcore] at hsplit
    have hv : Text.isBlankText v = false := Text.head?_trimEnds (by rw [hcore]; rfl)
    rcases List.eq_nil_or_concat (v :: rest) with h0 | ⟨mid, z, hmid⟩
    · cases h0
    · rw [List.concat_eq_append] at hmid
      have hz : Text.isBlankText z = false :=
        Text.getLast?_trimEnds (by rw [hcore, hmid, List.getLast?_concat])
      exact Or.inr ⟨v, rest, mid, z, rfl, hmid, hv, hz,
        groups_eq_modify hbefore hafter hv hz hmid (congrArg groups hsplit.symm)⟩

/-- From the first line with words to the last one, lines are grouped alike whatever the spelling
of blank lines, so that paragraphs are the same if they begin and end with the same blank lines. -/
theorem groups_eq_of_edges {ls ks : List Text}
    (h : SameLines (ls.dropWhile Text.isBlankText) (ks.dropWhile Text.isBlankText))
    (hfirst : (groups ls).flatten.takeWhile Text.isBlankText =
      (groups ks).flatten.takeWhile Text.isBlankText)
    (hlast : (groups ls).flatten.rtakeWhile Text.isBlankText =
      (groups ks).flatten.rtakeWhile Text.isBlankText) : groups ls = groups ks := by
  have hcore : SameLines (Text.trimEnds Text.isBlankText ls) (Text.trimEnds Text.isBlankText ks) :=
    h.rdropWhile
  rcases groups_cases ls with ⟨hl, hgroups⟩ | ⟨v, rest, mid, z, hl, hmid, hv, hz, hgroups⟩
  · rcases groups_cases ks with ⟨-, hgroups'⟩ | ⟨v', rest', -, -, hk, -⟩
    · rw [hgroups, hgroups']
    · rw [hl, hk] at hcore
      cases hcore
  · rcases groups_cases ks with ⟨hk, -⟩ | ⟨v', rest', mid', z', hk, hmid', -, -, hgroups'⟩
    · rw [hl, hk] at hcore
      cases hcore
    · rw [hl, hk] at hcore
      obtain rfl : v = v' := by
        cases hcore with
        | cons hhead _ => exact hhead.eq_of_isBlankText hv
      rw [hmid, hmid'] at hcore
      obtain ⟨hsame, hend⟩ := forall₂_concat hcore
      obtain rfl := hend.eq_of_isBlankText hz
      have hmiddle : groups (v :: rest) = groups (v :: rest') := by
        rw [hmid, hmid']
        exact groups_eq_of_sameLines hsame hv hz hmid.symm hmid'.symm
      rw [hgroups, hgroups', hfirst, hlast, hmiddle]

end Middle

/-- The blank lines of a text that are read: as its header line, before the first words below it
and after the last. -/
@[ext]
structure Blanks where
  header : Bool
  first : List Text
  last : List Text
deriving DecidableEq

/-- The blank lines of a text that are read. -/
def blanksRead (s : Text) : Blanks where
  header := Text.isBlankText ((messageLines s).headD [])
  first := (groups (messageLines s).tail).flatten.takeWhile Text.isBlankText
  last := (groups (messageLines s).tail).flatten.rtakeWhile Text.isBlankText

section Reading

variable {s t : Text} {m : Message}

/-- Empty lines before the others are cut off first. -/
theorem dropWhile_isEmpty (ls : List Text) :
    (ls.dropWhile List.isEmpty).dropWhile Text.isBlankText = ls.dropWhile Text.isBlankText := by
  induction ls with
  | nil => rfl
  | cons l ls ih =>
    cases l with
    | nil => exact ih
    | cons c l => rfl

theorem messageLines_nil
    (h : (Text.chopReturns (Text.lines s)).dropWhile List.isEmpty = []) : messageLines s = [] := by
  rw [messageLines, Text.trimLines, Text.trimEnds, h]
  rfl

/-- The first line that is not empty is the header line. -/
theorem messageLines_cons {line : Text} {below : List Text}
    (h : (Text.chopReturns (Text.lines s)).dropWhile List.isEmpty = line :: below) :
    messageLines s = line :: below.rdropWhile List.isEmpty := Text.trimLines_of_dropWhile h

/-- The first line with words is the header line or below it. -/
theorem exists_below (s : Text) :
    ∃ below, groups (messageLines s).tail = groups below ∧
      (Text.chopReturns (Text.lines s)).dropWhile Text.isBlankText =
        ((messageLines s).headD [] :: below).dropWhile Text.isBlankText := by
  rw [← dropWhile_isEmpty]
  cases hopen : (Text.chopReturns (Text.lines s)).dropWhile List.isEmpty with
  | nil =>
    rw [messageLines_nil hopen]
    exact ⟨[], rfl, rfl⟩
  | cons line below =>
    rw [messageLines_cons hopen]
    exact ⟨below, groups_rdropWhile below, rfl⟩

/-- A header line is read without the blanks around it. -/
theorem header_parse_congr {options : HeaderOptions} {line line' : Text}
    (h : Text.strip line = Text.strip line') :
    Header.parse options line = Header.parse options line' := by
  rw [Header.parse, Header.parse, h]

/-- If both header lines are blank or neither is, they are the same but for blanks, and so are
the lines below them. -/
theorem exists_sameLines_below
    (h : SameLines (Text.chopReturns (Text.lines s)) (Text.chopReturns (Text.lines t)))
    (hheader : (blanksRead s).header = (blanksRead t).header) :
    Text.strip ((messageLines s).headD []) = Text.strip ((messageLines t).headD []) ∧
      ∃ ls ks, groups (messageLines s).tail = groups ls ∧ groups (messageLines t).tail = groups ks ∧
        SameLines (ls.dropWhile Text.isBlankText) (ks.dropWhile Text.isBlankText) := by
  obtain ⟨ls, hls, hs⟩ := exists_below s
  obtain ⟨ks, hks, ht⟩ := exists_below t
  have hsame := h.dropWhile
  rw [hs, ht] at hsame
  replace hheader : Text.isBlankText ((messageLines s).headD []) =
      Text.isBlankText ((messageLines t).headD []) := hheader
  cases hb : Text.isBlankText ((messageLines s).headD []) with
  | true =>
    have hb' := hheader.symm.trans hb
    rw [List.dropWhile_cons_of_pos hb, List.dropWhile_cons_of_pos hb'] at hsame
    exact ⟨(Text.strip_eq_nil_iff.mpr hb).trans (Text.strip_eq_nil_iff.mpr hb').symm,
      ls, ks, hls, hks, hsame⟩
  | false =>
    have hb' := hheader.symm.trans hb
    rw [List.dropWhile_cons_of_neg (Bool.eq_false_iff.mp hb),
      List.dropWhile_cons_of_neg (Bool.eq_false_iff.mp hb')] at hsame
    cases hsame with
    | cons hline hrest =>
      exact ⟨congrArg Text.strip (hline.eq_of_isBlankText hb), ls, ks, hls, hks,
        SameLines.dropWhile hrest⟩

theorem IsRead.unique {ps qs : List (List Text)} (h : IsRead m ps) (h' : IsRead m qs) : ps = qs :=
  List.append_cancel_right ((h'.render_eq_iff h).mp rfl).2

/-- What is read from a text tells which blank lines were read in its body. -/
theorem edges_of_parse (h : parse .standard s = .ok m) :
    ∃ ps, IsRead m ps ∧ (blanksRead s).first = ps.flatten.takeWhile Text.isBlankText ∧
      (blanksRead s).last =
        if m.footers = [] then ps.flatten.rtakeWhile Text.isBlankText else [] := by
  obtain ⟨ps, blocks, hread, hsplit, hreads⟩ := exists_blocks_of_parse h
  have hword : ∀ l ∈ blocks.flatten, Text.isBlankText l = false := by
    intro l hl
    obtain ⟨f, -, hf⟩ := hreads.exists_of_mem hl
    exact Footer.isBlankText_of_parse hf
  refine ⟨ps, hread, ?_, ?_⟩
  · have hnone : blocks.flatten.takeWhile Text.isBlankText = [] := by
      cases hblocks : blocks.flatten with
      | nil => rfl
      | cons l ls =>
        exact List.takeWhile_cons_of_neg (by simp [hword l (hblocks ▸ List.mem_cons_self)])
    rw [blanksRead, hsplit, List.flatten_append, List.takeWhile_append, hnone, List.append_nil]
    split
    · rename_i hall
      exact ((List.takeWhile_prefix Text.isBlankText).eq_of_length hall).symm
    · rfl
  · rw [blanksRead, hsplit, List.flatten_append]
    cases hfooters : m.footers with
    | nil =>
      rw [hfooters] at hreads
      rw [List.forall₂_nil_right_iff.mp hreads, List.append_nil, if_pos rfl]
    | cons f fs =>
      rw [if_neg (List.cons_ne_nil f fs)]
      rcases List.eq_nil_or_concat blocks.flatten with hnil | ⟨ls, l, hl⟩
      · rw [hnil, hfooters] at hreads
        cases hreads
      · have hlast := hword l (hl ▸ by simp)
        rw [hl, List.concat_eq_append, ← List.append_assoc,
          List.rtakeWhile_concat_neg _ _ _ (by simp [hlast])]

theorem length_worded_lines (s : Text) :
    (Text.worded (Text.chopReturns (Text.lines s))).length =
      (Text.worded (messageLines s).tail).length + if (blanksRead s).header then 0 else 1 := by
  rw [← Text.worded_trimLines, ← messageLines, blanksRead]
  cases messageLines s with
  | nil => rfl
  | cons l ls => cases hb : Text.isBlankText l <;> simp [Text.worded, hb]

/-- What is read from lines that differ only in the spelling of blank lines tells whether the
header line is blank. -/
theorem header_blanksRead_eq
    (h : SameLines (Text.chopReturns (Text.lines s)) (Text.chopReturns (Text.lines t)))
    (hs : parse .standard s = .ok m) (ht : parse .standard t = .ok m) :
    (blanksRead s).header = (blanksRead t).header := by
  obtain ⟨ps, hps, hlength⟩ := length_worded_of_parse hs
  obtain ⟨qs, hqs, hlength'⟩ := length_worded_of_parse ht
  obtain rfl := hps.unique hqs
  have hall := length_worded_lines s
  rw [h.worded_eq, length_worded_lines t, ← hlength, ← hlength'] at hall
  cases hb : (blanksRead s).header <;> cases hb' : (blanksRead t).header <;> simp_all

/-- Texts that differ only in the spelling of blank lines are read alike exactly if the same blank
lines of them are read. -/
theorem parse_eq_iff_of_sameLines
    (h : SameLines (Text.chopReturns (Text.lines s)) (Text.chopReturns (Text.lines t))) :
    parse .standard s = parse .standard t ↔ blanksRead s = blanksRead t := by
  constructor
  · intro hparse
    obtain ⟨m, hs⟩ := exists_parse s
    have ht := hparse.symm.trans hs
    have hheader := header_blanksRead_eq h hs ht
    obtain ⟨ps, hps, hfirst, hlast⟩ := edges_of_parse hs
    obtain ⟨qs, hqs, hfirst', hlast'⟩ := edges_of_parse ht
    obtain rfl := hps.unique hqs
    rw [← hfirst'] at hfirst
    rw [← hlast'] at hlast
    exact Blanks.ext hheader hfirst hlast
  · intro hblanks
    obtain ⟨hstrip, ls, ks, hls, hks, hbelow⟩ :=
      exists_sameLines_below h (congrArg Blanks.header hblanks)
    have hfirst := congrArg Blanks.first hblanks
    have hlast := congrArg Blanks.last hblanks
    rw [blanksRead, blanksRead, hls, hks] at hfirst hlast
    rw [parse_eq_lines, parse_eq_lines, header_parse_congr hstrip, hls, hks,
      groups_eq_of_edges hbelow hfirst hlast]

end Reading

/-- A text with its blank lines emptied. -/
def emptyBlankLines (s : Text) : Text :=
  Text.join ['\n'] ((Text.lines s).map fun l => if isBlankLine l then [] else l)

/-- Whether a line stays as it is, or is a blank line and is emptied. -/
def Emptied (l k : Text) : Prop := k = l ∨ isBlankLine l = true ∧ k = []

section Emptying

variable {l k : Text} {ls ks : List Text}

theorem Emptied.sameLine (h : Emptied l k) : SameLine l k := by
  rcases h with rfl | ⟨hl, rfl⟩
  · exact Or.inl rfl
  · exact Or.inr ⟨hl, rfl⟩

theorem Emptied.eq_of_isBlankLine (h : Emptied l k) (hl : isBlankLine l = false) : k = l := by
  rcases h with rfl | ⟨hblank, -⟩
  · rfl
  · rw [hblank] at hl
    cases hl

theorem chopReturn_of_isBlankLine (h : isBlankLine l = true) : Text.chopReturn l = l := by
  refine if_neg fun hlast => ?_
  have := List.all_eq_true.mp h _ (List.mem_of_getLast? hlast)
  revert this
  decide

theorem Emptied.chopReturn (h : Emptied l k) :
    Emptied (Text.chopReturn l) (Text.chopReturn k) := by
  rcases h with rfl | ⟨hl, rfl⟩
  · exact Or.inl rfl
  · rw [chopReturn_of_isBlankLine hl]
    exact Or.inr ⟨hl, rfl⟩

theorem emptied_chopReturns (h : List.Forall₂ Emptied ls ks) :
    List.Forall₂ Emptied (Text.chopReturns ls) (Text.chopReturns ks) := by
  induction h with
  | nil => exact List.Forall₂.nil
  | cons hl hrest ih =>
    cases hrest with
    | nil => exact List.Forall₂.cons hl List.Forall₂.nil
    | cons hm hrest => exact List.Forall₂.cons hl.chopReturn ih

theorem emptied_lines (s : Text) :
    List.Forall₂ Emptied (Text.lines s) (Text.lines (emptyBlankLines s)) := by
  have hplain : ∀ l ∈ (Text.lines s).map fun l => if isBlankLine l then [] else l, '\n' ∉ l := by
    intro l hl
    obtain ⟨k, hk, rfl⟩ := List.mem_map.mp hl
    split
    · exact List.not_mem_nil
    · exact Text.notMem_of_mem_pieces hk
  have hne : (Text.lines s).map (fun l => if isBlankLine l then [] else l) ≠ [] := by
    simp [Text.lines, Text.pieces_eq_splitOn, List.splitOn_ne_nil]
  rw [emptyBlankLines, Text.lines, Text.lines, Text.pieces_join hplain hne, ← Text.lines,
    List.forall₂_map_right_iff]
  refine List.forall₂_same.mpr fun l _ => ?_
  split
  · rename_i hl
    exact Or.inr ⟨hl, rfl⟩
  · exact Or.inl rfl

theorem emptied_dropWhile (h : List.Forall₂ Emptied ls ks)
    (hfirst : (ls.dropWhile List.isEmpty).head?.any isBlankLine = false) :
    List.Forall₂ Emptied (ls.dropWhile List.isEmpty) (ks.dropWhile List.isEmpty) := by
  induction h with
  | nil => exact List.Forall₂.nil
  | @cons l k ls ks hl hrest ih =>
    cases l with
    | nil =>
      obtain rfl : k = [] := hl.elim id And.right
      exact ih hfirst
    | cons c l =>
      rw [List.dropWhile_cons_of_neg (by simp)] at hfirst ⊢
      obtain rfl := hl.eq_of_isBlankLine (by simpa using hfirst)
      rw [List.dropWhile_cons_of_neg (by simp)]
      exact List.Forall₂.cons hl hrest

theorem emptied_rdropWhile (h : List.Forall₂ Emptied ls ks)
    (hlast : (ls.rdropWhile List.isEmpty).getLast?.any isBlankLine = false) :
    List.Forall₂ Emptied (ls.rdropWhile List.isEmpty) (ks.rdropWhile List.isEmpty) := by
  rw [List.rdropWhile, List.getLast?_reverse] at hlast
  exact List.forall₂_reverse_iff.mpr (emptied_dropWhile (List.forall₂_reverse_iff.mpr h) hlast)

theorem head?_dropWhile_isEmpty (ls : List Text) :
    (ls.dropWhile List.isEmpty).head? = (Text.trimLines ls).head? := by
  cases hls : ls.dropWhile List.isEmpty with
  | nil =>
    rw [Text.trimLines, Text.trimEnds, hls]
    rfl
  | cons l ks => rw [Text.trimLines_of_dropWhile hls, List.head?_cons, List.head?_cons]

/-- Lines between two that are not blank are grouped alike if they are emptied. -/
theorem groupLines_eq_of_emptied (h : List.Forall₂ Emptied ls ks)
    (hfirst : ls.head?.any isBlankLine = false) (hlast : ls.getLast?.any isBlankLine = false) :
    groupLines ls = groupLines ks := by
  cases h with
  | nil => rfl
  | @cons l k ls ks hl hrest =>
    obtain rfl := hl.eq_of_isBlankLine hfirst
    rcases List.eq_nil_or_concat ls with rfl | ⟨mid, z, rfl⟩
    · cases hrest
      rfl
    · rcases List.eq_nil_or_concat ks with rfl | ⟨mid', z', rfl⟩
      · simpa using hrest.length_eq
      · rw [List.concat_eq_append, List.concat_eq_append] at hrest
        obtain ⟨hmid, hz⟩ := forall₂_concat hrest
        rw [List.concat_eq_append, ← List.cons_append, List.getLast?_concat] at hlast
        obtain rfl := hz.eq_of_isBlankLine hlast
        rw [List.concat_eq_append, List.concat_eq_append]
        exact SameLines.groupFrom_eq (hmid.imp fun _ _ => Emptied.sameLine) [k]

theorem groups_eq_of_emptied (h : List.Forall₂ Emptied ls ks)
    (hfirst : (Text.trimLines ls).head?.any isBlankLine = false)
    (hlast : (Text.trimLines ls).getLast?.any isBlankLine = false) : groups ls = groups ks := by
  have htrim : List.Forall₂ Emptied (Text.trimLines ls) (Text.trimLines ks) :=
    emptied_rdropWhile (emptied_dropWhile h (by rwa [head?_dropWhile_isEmpty])) hlast
  rw [groups, groups, groupLines_eq_of_emptied htrim hfirst hlast]

end Emptying

/-- Whether no blank line is the header line, or the first or the last below it that is not
empty. -/
structure BlanksBetween (s : Text) : Prop where
  header : (messageLines s).head?.any isBlankLine = false
  first : (Text.trimLines (messageLines s).tail).head?.any isBlankLine = false
  last : (Text.trimLines (messageLines s).tail).getLast?.any isBlankLine = false

theorem parse_emptyBlankLines_of_between {s : Text} (h : BlanksBetween s) :
    parse .standard (emptyBlankLines s) = parse .standard s := by
  have hheader := h.header
  rw [messageLines, ← head?_dropWhile_isEmpty] at hheader
  have hlines := emptied_dropWhile (emptied_chopReturns (emptied_lines s)) hheader
  rw [parse_eq_lines, parse_eq_lines]
  cases hs : (Text.chopReturns (Text.lines s)).dropWhile List.isEmpty with
  | nil =>
    rw [hs] at hlines
    rw [messageLines_nil hs, messageLines_nil (List.forall₂_nil_left_iff.mp hlines)]
  | cons line below =>
    rw [hs, List.head?_cons] at hheader
    rw [hs] at hlines
    cases ht : (Text.chopReturns (Text.lines (emptyBlankLines s))).dropWhile List.isEmpty with
    | nil =>
      rw [ht] at hlines
      cases hlines
    | cons line' below' =>
      rw [ht] at hlines
      cases hlines with
      | cons hline hbelow =>
        obtain rfl := hline.eq_of_isBlankLine hheader
        have hfirst := h.first
        have hlast := h.last
        rw [messageLines_cons hs, List.tail_cons, Text.trimLines, Text.trimEnds_rdropWhile]
          at hfirst hlast
        rw [messageLines_cons hs, messageLines_cons ht, List.headD_cons, List.headD_cons,
          List.tail_cons, List.tail_cons, groups_rdropWhile, groups_rdropWhile,
          groups_eq_of_emptied hbelow hfirst hlast]

/-- Emptying blank lines changes nothing that is read exactly if it changes no blank line that is
read. It changes nothing where blank lines stand between other lines only. -/
theorem parse_emptyBlankLines (s : Text) :
    (parse .standard (emptyBlankLines s) = parse .standard s ↔
      blanksRead (emptyBlankLines s) = blanksRead s) ∧
    (BlanksBetween s → parse .standard (emptyBlankLines s) = parse .standard s) := by
  have hlines := emptied_chopReturns (emptied_lines s)
  have hsame := hlines.imp fun _ _ => Emptied.sameLine
  refine ⟨?_, parse_emptyBlankLines_of_between⟩
  rw [eq_comm, parse_eq_iff_of_sameLines hsame, eq_comm]

/-- Blank lines between the paragraphs of a body are emptied without effect. -/
theorem parse_emptyBlankLines_spacedParagraphs :
    BlanksBetween "feat: Add parser\n\nReads the header.\n \t\nReads the body.".toList ∧
      parse .standard
          (emptyBlankLines "feat: Add parser\n\nReads the header.\n \t\nReads the body.".toList) =
        parse .standard "feat: Add parser\n\nReads the header.\n \t\nReads the body.".toList := by
  have h : BlanksBetween "feat: Add parser\n\nReads the header.\n \t\nReads the body.".toList :=
    ⟨by decide +kernel, by decide +kernel, by decide +kernel⟩
  exact ⟨h, (parse_emptyBlankLines _).2 h⟩

/-- A blank line with spaces in it is read with the body if it is the first below the header
line. -/
theorem parse_emptyBlankLines_spacedBody :
    ∃ m, parse .standard "feat: Add parser\n  \nReads the header once.".toList = .ok m ∧
      ∃ r, parse .standard
          (emptyBlankLines "feat: Add parser\n  \nReads the header once.".toList) = .ok r ∧
        m.body = "  \nReads the header once.".toList ∧ r.body = "Reads the header once.".toList ∧
        m.body ≠ r.body :=
  ⟨_, rfl, _, rfl, by decide +kernel, by decide +kernel, by decide +kernel⟩

end CommitStandard.Message
