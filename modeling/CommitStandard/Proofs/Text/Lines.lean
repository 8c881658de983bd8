import Mathlib.Tactic
import CommitStandard.Proofs.Text.Trimming
import CommitStandard.Text.Basic

/-!
# Pieces and lines

Cutting at a character and joining with it undo each other, so a text can be
reasoned about as its list of lines. The two operations are those of the list
library under other names. Line feeds are cut off a text by cutting off empty
lines (`trim_join`). Writing line breaks as line feeds takes one carriage return
from the end of every line but the last (`lines_unixLines`).
-/
namespace CommitStandard.Text

/-- The first occurrence of a character divides a text in one way. -/
theorem eq_of_append_cons {c : Char} {a b s t : Text} (ha : c ∉ a) (hb : c ∉ b)
    (h : a ++ c :: s = b ++ c :: t) : a = b ∧ s = t := by
  induction a generalizing b with
  | nil =>
    cases b with
    | nil => exact ⟨rfl, (List.cons.inj h).2⟩
    | cons d b =>
      obtain ⟨rfl, -⟩ := List.cons.inj h
      exact absurd List.mem_cons_self hb
  | cons d a ih =>
    cases b with
    | nil =>
      obtain ⟨rfl, -⟩ := List.cons.inj h
      exact absurd List.mem_cons_self ha
    | cons e b =>
      obtain ⟨rfl, htail⟩ := List.cons.inj h
      rw [List.mem_cons, not_or] at ha hb
      obtain ⟨rfl, hst⟩ := ih ha.2 hb.2 htail
      exact ⟨rfl, hst⟩

theorem join_eq_intercalate (sep : Text) (ps : List Text) : join sep ps = sep.intercalate ps := by
  induction ps with
  | nil => rfl
  | cons p ps ih =>
    cases ps with
    | nil => simp
    | cons q ps => rw [join, ih, List.intercalate_cons_cons]

theorem consHead_eq_modifyHead {c : Char} {ps : List Text} (h : ps ≠ []) :
    consHead c ps = ps.modifyHead (List.cons c) := by
  cases ps with
  | nil => exact absurd rfl h
  | cons p ps => rfl

theorem pieces_eq_splitOn (c : Char) (s : Text) : pieces c s = List.splitOn c s := by
  induction s with
  | nil => rfl
  | cons d s ih =>
    rw [pieces, List.splitOn_cons_eq_if_modifyHead, ih]
    by_cases h : d = c
    · simp [h]
    · rw [if_neg h, if_neg (by simpa using h), consHead_eq_modifyHead (List.splitOn_ne_nil c s)]

/-- Cutting undoes joining of pieces that do not hold the separator. -/
theorem pieces_join {c : Char} {ps : List Text} (h : ∀ p ∈ ps, c ∉ p) (hne : ps ≠ []) :
    pieces c (join [c] ps) = ps := by
  rw [pieces_eq_splitOn, join_eq_intercalate, List.splitOn_intercalate c h hne]

theorem pieces_append_cons (c : Char) (s t : Text) :
    pieces c (s ++ c :: t) = pieces c s ++ pieces c t := by
  simp only [pieces_eq_splitOn, List.splitOn_append_cons_self]

theorem pieces_eq_singleton {c : Char} {s : Text} (h : c ∉ s) : pieces c s = [s] := by
  rw [pieces_eq_splitOn, List.splitOn_eq_singleton h]

theorem notMem_of_mem_pieces {c : Char} {s p : Text} (h : p ∈ pieces c s) : c ∉ p := by
  induction s generalizing p with
  | nil => simp_all [pieces]
  | cons d s ih =>
    rw [pieces] at h
    split at h
    · rcases List.mem_cons.mp h with rfl | h
      · simp
      · exact ih h
    · rename_i hd
      obtain ⟨q, ps, hq⟩ := List.exists_cons_of_ne_nil (pieces_ne_nil c s)
      rw [hq, consHead] at h
      rcases List.mem_cons.mp h with rfl | h
      · have := ih (hq ▸ List.mem_cons_self)
        simp [Ne.symm hd, this]
      · exact ih (hq ▸ List.mem_cons_of_mem q h)

theorem mem_join {c : Char} {sep : Text} {ps : List Text} (h : c ∈ join sep ps) :
    c ∈ sep ∨ ∃ p ∈ ps, c ∈ p := by
  induction ps with
  | nil => simp at h
  | cons p ps ih =>
    by_cases hne : ps = []
    · subst hne
      exact Or.inr ⟨p, List.mem_cons_self, h⟩
    · rw [join_cons _ _ hne] at h
      rcases List.mem_append.mp h with h | h
      · rcases List.mem_append.mp h with h | h
        · exact Or.inr ⟨p, List.mem_cons_self, h⟩
        · exact Or.inl h
      · rcases ih h with h | ⟨q, hq, hc⟩
        · exact Or.inl h
        · exact Or.inr ⟨q, List.mem_cons_of_mem p hq, hc⟩

/-- A joined text has every text that was joined in it. -/
theorem mem_join_of_mem {c : Char} {sep p : Text} {ps : List Text} (hp : p ∈ ps) (hc : c ∈ p) :
    c ∈ join sep ps := by
  induction ps with
  | nil => simp at hp
  | cons q ps ih =>
    by_cases hne : ps = []
    · subst hne
      rcases List.mem_singleton.mp hp with rfl
      exact hc
    · rw [join_cons _ _ hne]
      rcases List.mem_cons.mp hp with rfl | hp
      · simp [hc]
      · simp [ih hp]

/-- Looking only at characters that no separator has, the separators do not show. -/
theorem filter_join {p : Char → Bool} {sep : Text} (hsep : sep.filter p = []) (ps : List Text) :
    (join sep ps).filter p = ps.flatten.filter p := by
  induction ps with
  | nil => rfl
  | cons q ps ih =>
    by_cases hps : ps = []
    · rw [hps, join_singleton, List.flatten_singleton]
    · rw [join_cons _ _ hps, List.filter_append, List.filter_append, hsep, ih,
        List.flatten_cons, List.filter_append, List.append_nil]

theorem join_nil_left (ps : List Text) : join [] ps = ps.flatten := by
  induction ps with
  | nil => rfl
  | cons p ps ih =>
    cases ps with
    | nil => simp
    | cons q ps => rw [join, ih, List.append_nil, ← List.flatten_cons]

section Longer

variable {sep : Text} {ps qs : List Text}

theorem length_join_le (h : List.Forall₂ (fun p q : Text => p.length ≤ q.length) ps qs) :
    (join sep ps).length ≤ (join sep qs).length := by
  induction h with
  | nil => exact le_rfl
  | @cons p q ps qs hpq h ih =>
    by_cases hps : ps = []
    · subst hps
      rw [List.forall₂_nil_left_iff.mp h]
      exact hpq
    · have hqs : qs ≠ [] := by
        rintro rfl
        exact hps (List.forall₂_nil_right_iff.mp h)
      simp only [join_cons _ _ hps, join_cons _ _ hqs, List.length_append]
      omega

/-- Texts that are no shorter than others join to the same text only if they are the others. -/
theorem join_eq_join_iff (h : List.Forall₂ (fun p q : Text => p.length ≤ q.length) ps qs) :
    join sep qs = join sep ps ↔ qs = ps := by
  refine ⟨fun heq => ?_, fun heq => by rw [heq]⟩
  induction h with
  | nil => rfl
  | @cons p q ps qs hpq h ih =>
    by_cases hps : ps = []
    · subst hps
      obtain rfl := List.forall₂_nil_left_iff.mp h
      rw [join_singleton, join_singleton] at heq
      rw [heq]
    · have hqs : qs ≠ [] := by
        rintro rfl
        exact hps (List.forall₂_nil_right_iff.mp h)
      have hrest : (join sep ps).length ≤ (join sep qs).length := length_join_le h
      rw [join_cons _ _ hps, join_cons _ _ hqs, List.append_assoc, List.append_assoc] at heq
      have hlength := congrArg List.length heq
      simp only [List.length_append] at hlength
      obtain ⟨rfl, htail⟩ := List.append_inj heq (by omega)
      rw [ih (List.append_cancel_left htail)]

end Longer

theorem mem_of_mem_pieces {c d : Char} {s p : Text} (hp : p ∈ pieces c s) (hd : d ∈ p) : d ∈ s := by
  rw [← join_pieces c s]
  exact mem_join_of_mem hp hd

theorem join_append (sep : Text) {ps qs : List Text} (hp : ps ≠ []) (hq : qs ≠ []) :
    join sep (ps ++ qs) = join sep ps ++ sep ++ join sep qs := by
  induction ps with
  | nil => exact absurd rfl hp
  | cons p ps ih =>
    by_cases hps : ps = []
    · subst hps
      exact join_cons sep p hq
    · rw [List.cons_append, join_cons _ _ (by simp [hps]), join_cons _ _ hps, ih hps]
      simp

/-- What stands before and after one of several joined texts. -/
theorem exists_join_middle (sep : Text) (as bs : List Text) :
    ∃ before after, (∀ s, join sep (as ++ s :: bs) = before ++ (s ++ after)) ∧
      (before = [] ∨ sep <:+ before) ∧ ∀ c ∈ before, c ∈ sep ∨ ∃ a ∈ as, c ∈ a := by
  induction as with
  | nil =>
    refine ⟨[], if bs = [] then [] else sep ++ join sep bs, fun s => ?_, Or.inl rfl, by simp⟩
    by_cases hbs : bs = []
    · simp [hbs]
    · rw [List.nil_append, join_cons _ _ hbs, if_neg hbs, List.nil_append, List.append_assoc]
  | cons a as ih =>
    obtain ⟨before, after, hjoin, hend, hin⟩ := ih
    refine ⟨a ++ sep ++ before, after, fun s => ?_, Or.inr ?_, fun c hc => ?_⟩
    · rw [List.cons_append, join_cons _ _ (by simp), hjoin, List.append_assoc _ before]
    · rcases hend with rfl | hend
      · simp
      · exact hend.trans (List.suffix_append _ _)
    · rcases List.mem_append.mp hc with hc | hc
      · rcases List.mem_append.mp hc with hc | hc
        · exact Or.inr ⟨a, List.mem_cons_self, hc⟩
        · exact Or.inl hc
      · exact (hin c hc).imp_right fun ⟨b, hb, hc⟩ => ⟨b, List.mem_cons_of_mem a hb, hc⟩

/-- Cutting at a separator of one character is cutting at that character. -/
theorem splitOn_singleton (c : Char) (s : Text) : splitOn [c] s = pieces c s := by
  rw [splitOn]
  induction s with
  | nil => rfl
  | cons d s ih =>
    rw [splitFrom, pieces]
    by_cases h : c = d
    · subst h
      simp [ih]
    · rw [if_neg (by simp [List.isPrefixOf, h]), if_neg (Ne.symm h), ih]

/-- Lines without the empty ones at both ends. -/
def trimLines (ls : List Text) : List Text := trimEnds List.isEmpty ls

theorem trimLines_subset {ls : List Text} {l : Text} (h : l ∈ trimLines ls) : l ∈ ls :=
  (isInfix_trimEnds List.isEmpty ls).subset h

theorem head?_trimLines (ls : List Text) : (trimLines ls).head? ≠ some [] := by
  intro h
  exact absurd (head?_trimEnds h) (by simp)

theorem getLast?_trimLines (ls : List Text) : (trimLines ls).getLast? ≠ some [] := by
  intro h
  exact absurd (getLast?_trimEnds h) (by simp)

theorem trimLines_eq_self {ls : List Text} (hhead : ls.head? ≠ some [])
    (hlast : ls.getLast? ≠ some []) : trimLines ls = ls := by
  refine trimEnds_eq_self ?_ ?_
  · intro l hl
    rw [List.isEmpty_eq_false_iff]
    rintro rfl
    exact hhead hl
  · intro l hl
    rw [List.isEmpty_eq_false_iff]
    rintro rfl
    exact hlast hl

/-- The first line that is not empty is the first of those that are left. -/
theorem trimLines_of_dropWhile {ls ks : List Text} {l : Text}
    (h : ls.dropWhile List.isEmpty = l :: ks) :
    trimLines ls = l :: ks.rdropWhile List.isEmpty := by
  have hfirst := List.head?_dropWhile_not List.isEmpty ls
  rw [h] at hfirst
  rw [trimLines, trimEnds, h, rdropWhile_cons (by simpa using hfirst)]

/-- A first line that is not empty stays. -/
theorem trimLines_cons {l : Text} (hl : l ≠ []) (ls : List Text) :
    trimLines (l :: ls) = l :: ls.rdropWhile List.isEmpty :=
  trimLines_of_dropWhile (List.dropWhile_cons_of_neg (by simpa using hl))

theorem dropWhile_join {ls : List Text} (h : ∀ l ∈ ls, '\n' ∉ l) :
    (join ['\n'] ls).dropWhile (· = '\n') = join ['\n'] (ls.dropWhile List.isEmpty) := by
  induction ls with
  | nil => rfl
  | cons l ls ih =>
    have hrest := ih fun k hk => h k (List.mem_cons_of_mem l hk)
    cases l with
    | nil =>
      by_cases hls : ls = []
      · subst hls
        rfl
      · rw [join_cons _ _ hls, List.dropWhile_cons_of_pos (by rfl), ← hrest]
        simp
    | cons c l =>
      have hc : c ≠ '\n' := fun hc => h _ List.mem_cons_self (by simp [hc])
      rw [List.dropWhile_cons_of_neg (by simp)]
      apply dropWhile_eq_self
      intro d hd
      have hdc : d = c := by
        by_cases hls : ls = []
        · subst hls
          simpa using hd.symm
        · rw [join_cons _ _ hls] at hd
          simpa using hd.symm
      simpa [hdc] using hc

theorem rdropWhile_join {ls : List Text} (h : ∀ l ∈ ls, '\n' ∉ l) :
    (join ['\n'] ls).rdropWhile (· = '\n') = join ['\n'] (ls.rdropWhile List.isEmpty) := by
  induction ls using List.reverseRecOn with
  | nil => rfl
  | append_singleton ls l ih =>
    have hrest := ih fun k hk => h k (List.mem_append_left _ hk)
    by_cases hl : l = []
    · subst hl
      rw [List.rdropWhile_concat_pos _ _ _ (by rfl)]
      by_cases hls : ls = []
      · subst hls
        rfl
      · rw [join_append _ hls (by simp), join_singleton, List.append_nil,
          List.rdropWhile_concat_pos _ _ _ (by simp), hrest]
    · have hn : '\n' ∉ l := h l (by simp)
      rw [List.rdropWhile_concat_neg _ _ _ (by simpa using hl), List.rdropWhile_eq_self_iff]
      intro hne
      have hlast : (join ['\n'] (ls ++ [l])).getLast hne = l.getLast hl := by
        by_cases hls : ls = []
        · subst hls
          rfl
        · simp only [join_append _ hls (List.cons_ne_nil l []), join_singleton]
          exact List.getLast_append_of_ne_nil _ hl
      rw [hlast, decide_eq_true_eq]
      intro h0
      exact hn (h0 ▸ List.getLast_mem hl)

/-- Cutting off line feeds is cutting off empty lines. -/
theorem trim_join {ls : List Text} (h : ∀ l ∈ ls, '\n' ∉ l) :
    trim (· = '\n') (join ['\n'] ls) = join ['\n'] (trimLines ls) := by
  have hdrop : ∀ l ∈ ls.dropWhile List.isEmpty, '\n' ∉ l :=
    fun l hl => h l ((List.dropWhile_sublist _).subset hl)
  rw [trim_eq_trimEnds, trimEnds, dropWhile_join h, rdropWhile_join hdrop]
  rfl

/-- A line without one carriage return at its end. -/
def chopReturn (l : Text) : Text := if l.getLast? = some '\r' then l.dropLast else l

/-- Lines without one carriage return at the end of each but the last. -/
def chopReturns : List Text → List Text
  | [] => []
  | [l] => [l]
  | l :: m :: ls => chopReturn l :: chopReturns (m :: ls)

theorem chopReturn_isPrefix (l : Text) : chopReturn l <+: l := by
  unfold chopReturn
  split
  · exact List.dropLast_prefix l
  · exact List.prefix_refl l

theorem chopReturns_cons (l : Text) {ls : List Text} (h : ls ≠ []) :
    chopReturns (l :: ls) = chopReturn l :: chopReturns ls := by
  cases ls with
  | nil => exact absurd rfl h
  | cons m ls => rfl

theorem chopReturns_append (ls : List Text) {ks : List Text} (h : ks ≠ []) :
    chopReturns (ls ++ ks) = ls.map chopReturn ++ chopReturns ks := by
  induction ls with
  | nil => rfl
  | cons l ls ih =>
    rw [List.cons_append, chopReturns_cons l (by simp [h]), ih]
    rfl

theorem chopReturns_eq_self {ls : List Text} (h : ∀ l ∈ ls, chopReturn l = l) :
    chopReturns ls = ls := by
  fun_induction chopReturns ls with
  | case1 => rfl
  | case2 l => rfl
  | case3 l m ls ih =>
    rw [h l List.mem_cons_self, ih fun k hk => h k (List.mem_cons_of_mem l hk)]

@[simp] theorem length_chopReturns (ls : List Text) : (chopReturns ls).length = ls.length := by
  fun_induction chopReturns ls with
  | case1 => rfl
  | case2 l => rfl
  | case3 l m ls ih => simpa using ih

/-- Every line is a beginning of the line that it was. -/
theorem prefix_of_mem_chopReturns {ls : List Text} {k : Text} (h : k ∈ chopReturns ls) :
    ∃ l ∈ ls, k <+: l := by
  fun_induction chopReturns ls with
  | case1 => simp at h
  | case2 l => exact ⟨k, h, List.prefix_refl k⟩
  | case3 l m ls ih =>
    rcases List.mem_cons.mp h with rfl | h
    · exact ⟨l, List.mem_cons_self, chopReturn_isPrefix l⟩
    · obtain ⟨n, hn, hk⟩ := ih h
      exact ⟨n, List.mem_cons_of_mem l hn, hk⟩

theorem unixLines_eq_self {s : Text} (h : '\n' ∉ s ∨ '\r' ∉ s) : unixLines s = s := by
  fun_induction unixLines s with
  | case1 => rfl
  | case2 rest ih => simp at h
  | case3 c rest hc ih =>
    rw [ih]
    rcases h with h | h
    · exact Or.inl fun hr => h (List.mem_cons_of_mem c hr)
    · exact Or.inr fun hr => h (List.mem_cons_of_mem c hr)

theorem unixLines_cons_of_ne {c : Char} (d : Char) (s : Text) (h : c ≠ '\n') :
    unixLines (d :: c :: s) = d :: unixLines (c :: s) := by
  rw [unixLines]
  intro rest _ hs
  exact h (List.cons.inj hs).1

theorem unixLines_append_newline {l : Text} (h : '\n' ∉ l) (s : Text) :
    unixLines (l ++ '\n' :: s) = chopReturn l ++ '\n' :: unixLines s := by
  induction l with
  | nil => simp [unixLines, chopReturn]
  | cons c l ih =>
    simp only [List.mem_cons, not_or] at h
    cases l with
    | nil =>
      by_cases hc : c = '\r'
      · subst hc
        simp [unixLines, chopReturn]
      · have hcut : unixLines (c :: '\n' :: s) = c :: unixLines ('\n' :: s) := by
          rw [unixLines]
          intro rest hcr
          exact absurd hcr hc
        simp [hcut, unixLines, chopReturn, hc]
    | cons d l =>
      have hd : d ≠ '\n' := fun hd => h.2 (hd ▸ List.mem_cons_self)
      rw [List.cons_append, List.cons_append, unixLines_cons_of_ne c _ hd, ← List.cons_append,
        ih h.2]
      simp only [chopReturn, List.getLast?_cons_cons, List.dropLast_cons_cons]
      split <;> rfl

theorem unixLines_join {ls : List Text} (h : ∀ l ∈ ls, '\n' ∉ l) :
    unixLines (join ['\n'] ls) = join ['\n'] (chopReturns ls) := by
  fun_induction chopReturns ls with
  | case1 => rfl
  | case2 l => exact unixLines_eq_self (Or.inl (h l List.mem_cons_self))
  | case3 l m ls ih =>
    have hne : chopReturns (m :: ls) ≠ [] := by
      rw [← List.length_pos_iff, length_chopReturns]
      simp
    rw [join, List.append_assoc, List.singleton_append,
      unixLines_append_newline (h l List.mem_cons_self),
      ih fun k hk => h k (List.mem_cons_of_mem l hk), join_cons _ _ hne]
    simp

/-- The lines of a text whose line breaks are written as line feeds. -/
theorem lines_unixLines (s : Text) : lines (unixLines s) = chopReturns (lines s) := by
  have hs : ∀ l ∈ lines s, '\n' ∉ l := fun l => notMem_of_mem_pieces
  rw [← join_pieces '\n' s, unixLines_join hs, join_pieces '\n' s]
  apply pieces_join
  · intro k hk
    obtain ⟨l, hl, hkl⟩ := prefix_of_mem_chopReturns hk
    exact fun hn => hs l hl (hkl.subset hn)
  · rw [← List.length_pos_iff, length_chopReturns, List.length_pos_iff]
    exact pieces_ne_nil '\n' s

end CommitStandard.Text
