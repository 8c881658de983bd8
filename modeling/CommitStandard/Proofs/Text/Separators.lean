import Mathlib.Tactic
import CommitStandard.Proofs.Text.Lines

/-!
# Joining and splitting with separators

A text is split at a separator from left to right, so a text without the separator
comes back from a joined text unless its end and the separator after it hold the
separator sooner, as `a-` and `--` do (`RunsInto`). That is the only way in which
joining and splitting fail to undo each other (`splitOn_join_iff`).
-/
namespace CommitStandard.Text

/-- The end of a text and a separator after it hold the separator sooner than that. -/
def RunsInto (sep s : Text) : Prop :=
  ∃ n < sep.length, 0 < n ∧ sep.take n <:+ s ∧ sep.drop n <+: sep

instance (sep s : Text) : Decidable (RunsInto sep s) :=
  inferInstanceAs (Decidable (∃ n < sep.length, 0 < n ∧ sep.take n <:+ s ∧ sep.drop n <+: sep))

variable {sep s t : Text} {c : Char}

theorem not_runsInto_nil : ¬RunsInto sep [] := by
  rintro ⟨n, hn, hpos, hend, -⟩
  have hlength := hend.length_le
  rw [List.length_take, List.length_nil] at hlength
  omega

/-- A separator begins at the start of a text that it is not in, and reaches into the separator
after that text. -/
theorem exists_take_of_isPrefix (hs : ¬sep <:+: s) (h : sep <+: s ++ sep ++ t) :
    ∃ n < sep.length, sep.take n = s ∧ sep.drop n <+: sep := by
  have hshorter : s.length < sep.length := by
    by_contra hle
    rw [List.append_assoc] at h
    exact hs (List.prefix_of_prefix_length_le h (List.prefix_append s _) (by omega)).isInfix
  obtain ⟨u, rfl⟩ : s <+: sep :=
    List.prefix_of_prefix_length_le ⟨_, (List.append_assoc s sep t).symm⟩ h hshorter.le
  refine ⟨s.length, hshorter, List.take_left, ?_⟩
  rw [List.drop_left]
  rw [List.append_assoc s, List.prefix_append_right_inj] at h
  exact List.prefix_of_prefix_length_le h (List.prefix_append _ t) (by simp)

/-- A separator is met sooner in a text with one more character before it, or at its start. -/
theorem runsInto_cons_iff (hs : ¬sep <:+: c :: s) :
    RunsInto sep (c :: s) ↔ sep <+: c :: s ++ sep ++ t ∨ RunsInto sep s := by
  constructor
  · rintro ⟨n, hn, hpos, hend, hdrop⟩
    rcases List.suffix_cons_iff.mp hend with heq | hend
    · left
      obtain ⟨u, hu⟩ := hdrop
      refine ⟨u ++ t, ?_⟩
      calc sep ++ (u ++ t) = sep.take n ++ sep.drop n ++ (u ++ t) := by
            rw [List.take_append_drop]
        _ = sep.take n ++ (sep.drop n ++ u) ++ t := by simp only [List.append_assoc]
        _ = c :: s ++ sep ++ t := by rw [hu, heq]
    · exact Or.inr ⟨n, hn, hpos, hend, hdrop⟩
  · rintro (h | ⟨n, hn, hpos, hend, hdrop⟩)
    · obtain ⟨n, hn, heq, hdrop⟩ := exists_take_of_isPrefix hs h
      refine ⟨n, hn, Nat.pos_of_ne_zero ?_, heq ▸ List.suffix_rfl, hdrop⟩
      rintro rfl
      exact absurd heq (by simp)
    · exact ⟨n, hn, hpos, hend.trans (List.suffix_cons c s), hdrop⟩

theorem splitFrom_eq_drop (sep : Text) (n : Nat) (s : Text) :
    splitFrom sep n s = splitOn sep (s.drop n) := by
  induction s generalizing n with
  | nil => cases n <;> rfl
  | cons c s ih =>
    cases n with
    | zero => rfl
    | succ n => exact ih n

theorem splitOn_separator_append (hne : sep ≠ []) (t : Text) :
    splitOn sep (sep ++ t) = [] :: splitOn sep t := by
  obtain ⟨c, sep, rfl⟩ := List.exists_cons_of_ne_nil hne
  rw [List.cons_append, splitOn, splitFrom, if_pos, splitFrom_eq_drop]
  · simp
  · rw [List.isPrefixOf_iff_prefix, ← List.cons_append]
    exact List.prefix_append _ t

theorem splitOn_cons_of_isPrefix (h : sep <+: c :: s) :
    splitOn sep (c :: s) = [] :: splitFrom sep (sep.length - 1) s := by
  rw [splitOn, splitFrom, if_pos (List.isPrefixOf_iff_prefix.mpr h)]

theorem splitOn_cons_of_not_isPrefix (h : ¬sep <+: c :: s) :
    splitOn sep (c :: s) = consHead c (splitOn sep s) := by
  rw [splitOn, splitFrom, if_neg fun hp => h (List.isPrefixOf_iff_prefix.mp hp)]
  rfl

/-- The first piece of a joined text is the one that was put there, where the separator after it is
the first. -/
theorem splitOn_append (hne : sep ≠ []) (hs : ¬sep <:+: s) (hr : ¬RunsInto sep s) (t : Text) :
    splitOn sep (s ++ sep ++ t) = s :: splitOn sep t := by
  induction s with
  | nil => exact splitOn_separator_append hne t
  | cons c s ih =>
    rw [runsInto_cons_iff hs (t := t), not_or] at hr
    obtain ⟨hstart, hrest⟩ := hr
    rw [List.cons_append, List.cons_append] at hstart ⊢
    rw [splitOn_cons_of_not_isPrefix hstart,
      ih (fun h => hs (h.trans (List.suffix_cons c s).isInfix)) hrest]
    rfl

theorem head?_splitOn_append_ne (hs : ¬sep <:+: s) (hr : RunsInto sep s) (t : Text) :
    (splitOn sep (s ++ sep ++ t)).head? ≠ some s := by
  induction s with
  | nil => exact absurd hr not_runsInto_nil
  | cons c s ih =>
    rw [runsInto_cons_iff hs (t := t)] at hr
    by_cases hp : sep <+: c :: s ++ sep ++ t
    · rw [List.cons_append, List.cons_append] at hp ⊢
      rw [splitOn_cons_of_isPrefix hp]
      simp
    · have htail := ih (fun h => hs (h.trans (List.suffix_cons c s).isInfix)) (hr.resolve_left hp)
      rw [List.cons_append, List.cons_append] at hp ⊢
      rw [splitOn_cons_of_not_isPrefix hp]
      obtain ⟨p, ps, hps⟩ := List.exists_cons_of_ne_nil (splitFrom_ne_nil sep 0 (s ++ sep ++ t))
      rw [← splitOn] at hps
      rw [hps] at htail ⊢
      simpa [consHead] using htail

theorem splitOn_eq_singleton (h : ¬sep <:+: s) : splitOn sep s = [s] := by
  induction s with
  | nil => rfl
  | cons c s ih =>
    rw [splitOn_cons_of_not_isPrefix fun hp => h hp.isInfix,
      ih fun hs => h (hs.trans (List.suffix_cons c s).isInfix)]
    rfl

/-- No piece holds the separator. -/
theorem not_infix_of_mem_splitOn (hne : sep ≠ []) {p : Text} (hp : p ∈ splitOn sep s) :
    ¬sep <:+: p := by
  obtain ⟨n, hn⟩ : ∃ n, s.length = n := ⟨_, rfl⟩
  induction n using Nat.strong_induction_on generalizing s p with
  | _ n ih =>
    cases s with
    | nil =>
      rw [List.mem_singleton.mp hp, List.infix_nil]
      exact hne
    | cons c s =>
      by_cases hc : sep <+: c :: s
      · rw [splitOn_cons_of_isPrefix hc, splitFrom_eq_drop] at hp
        rcases List.mem_cons.mp hp with rfl | hp
        · rwa [List.infix_nil]
        · refine ih _ ?_ hp rfl
          rw [← hn, List.length_drop, List.length_cons]
          omega
      · rw [splitOn_cons_of_not_isPrefix hc] at hp
        have hshorter : s.length < n := by
          rw [← hn, List.length_cons]
          omega
        obtain ⟨q, qs, hqs⟩ := List.exists_cons_of_ne_nil (splitFrom_ne_nil sep 0 s)
        rw [← splitOn] at hqs
        rw [hqs, consHead] at hp
        rcases List.mem_cons.mp hp with rfl | hp
        · -- The first piece begins the text, and the separator does not.
          have hbegin : q <+: s := by
            rw [← join_splitOn s hne, hqs]
            by_cases hnil : qs = []
            · rw [hnil, join_singleton]
            · rw [join_cons _ _ hnil, List.append_assoc]
              exact List.prefix_append _ _
          rw [List.infix_cons_iff, not_or]
          refine ⟨fun h => hc (h.trans ?_), ih _ hshorter (hqs ▸ List.mem_cons_self) rfl⟩
          exact List.prefix_cons_inj c |>.mpr hbegin
        · exact ih _ hshorter (hqs ▸ List.mem_cons_of_mem q hp) rfl

section Padding

variable {b : Char} {n : ℕ}

/-- A text that begins with copies of a character and then with itself again has no other one. -/
theorem eq_of_mem_of_prefix_replicate (hn : 0 < n) (h : s <+: List.replicate n b ++ s) :
    ∀ c ∈ s, c = b := by
  have hat : ∀ i (hi : i < s.length), s[i] = b := by
    intro i
    induction i using Nat.strong_induction_on with
    | _ i ih =>
      intro hi
      rw [h.getElem hi]
      by_cases hin : i < n
      · simp [hin]
      · simpa [List.getElem_append, hin] using ih (i - n) (by omega) (by omega)
  intro c hc
  obtain ⟨i, hi, rfl⟩ := List.getElem_of_mem hc
  exact hat i hi

/-- No text with enough copies of a character at its end runs into a separator that does not end
with it. -/
theorem not_runsInto_append_replicate (hb : sep.getLast? ≠ some b) (s : Text) :
    ¬RunsInto sep (s ++ List.replicate sep.length b) := by
  rintro ⟨n, hn, hpos, hend, hdrop⟩
  have hcopies : sep.take n = List.replicate n b := by
    have htail : sep.take n <:+ List.replicate sep.length b :=
      List.suffix_of_suffix_length_le hend (List.suffix_append _ _) (by simp)
    refine List.eq_replicate_iff.mpr ⟨by simp; omega, fun c hc => ?_⟩
    exact (List.mem_replicate.mp (htail.subset hc)).2
  have hsep : sep = List.replicate n b ++ sep.drop n := by
    rw [← hcopies, List.take_append_drop]
  have hall := eq_of_mem_of_prefix_replicate (b := b) hpos (by rw [← hsep]; exact hdrop)
  have hrest : sep.drop n ≠ [] := by simpa using hn
  rw [hsep, List.getLast?_append_of_ne_nil _ hrest, List.getLast?_eq_some_getLast hrest,
    hall _ (List.getLast_mem hrest)] at hb
  exact hb rfl

/-- A separator that neither begins nor ends as a text and the copies of a character after it is
not in them, where the text is no longer than the separator. -/
theorem not_infix_cons_append_replicate (hc : sep.head? ≠ some c) (hb : sep.getLast? ≠ some b)
    (hne : sep ≠ []) (hs : s.length < sep.length) (n : ℕ) :
    ¬sep <:+: c :: s ++ List.replicate n b := by
  rintro ⟨before, after, h⟩
  cases before with
  | nil =>
    obtain ⟨d, sep, rfl⟩ := List.exists_cons_of_ne_nil hne
    simp only [List.nil_append, List.cons_append, List.cons.injEq] at h
    exact hc (congrArg some h.1)
  | cons d before =>
    simp only [List.cons_append, List.cons.injEq] at h
    rcases List.append_eq_append_iff.mp h.2 with ⟨rest, hrest, -⟩ | ⟨copies, hend, hcopies⟩
    · have hlength := congrArg List.length hrest
      simp only [List.length_append] at hlength
      omega
    · -- The separator ends among the copies.
      have hsome : copies ≠ [] := by
        rintro rfl
        have hlength := congrArg List.length hend
        simp only [List.length_append, List.length_nil] at hlength
        omega
      have hcopy : copies.getLast hsome ∈ List.replicate n b := by
        rw [hcopies]
        exact List.mem_append_left _ (List.getLast_mem hsome)
      have hlast := congrArg List.getLast? hend
      rw [List.getLast?_append_of_ne_nil _ hne, List.getLast?_append_of_ne_nil _ hsome,
        List.getLast?_eq_some_getLast hsome, (List.mem_replicate.mp hcopy).2] at hlast
      exact hb hlast

end Padding

/-- Splitting undoes joining of texts that do not hold the separator exactly if none of them runs
into the separator after it. -/
theorem splitOn_join_iff (hne : sep ≠ []) {ps : List Text} (hps : ps ≠ [])
    (h : ∀ p ∈ ps, ¬sep <:+: p) :
    splitOn sep (join sep ps) = ps ↔ ∀ p ∈ ps.dropLast, ¬RunsInto sep p := by
  induction ps with
  | nil => exact absurd rfl hps
  | cons p ps ih =>
    have hp := h p List.mem_cons_self
    by_cases hlast : ps = []
    · subst hlast
      simp [splitOn_eq_singleton hp]
    · rw [join_cons _ _ hlast, List.dropLast_cons_of_ne_nil hlast, List.forall_mem_cons,
        ← ih hlast fun q hq => h q (List.mem_cons_of_mem p hq)]
      by_cases hr : RunsInto sep p
      · refine iff_of_false (fun heq => ?_) fun hboth => hboth.1 hr
        exact head?_splitOn_append_ne hp hr _ (congrArg List.head? heq)
      · rw [splitOn_append hne hp hr, List.cons.injEq]
        exact ⟨fun heq => ⟨hr, heq.2⟩, fun hboth => ⟨rfl, hboth.2⟩⟩

end CommitStandard.Text
