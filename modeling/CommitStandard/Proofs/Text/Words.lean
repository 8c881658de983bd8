import Mathlib.Tactic
import CommitStandard.Proofs.Text.Characters

/-!
# Texts put together from words

A text is unbroken if no word begins inside of it, and exactly these texts are left
alone by the separation of words (`separate_eq_self`, `length_lt_length_separate`).
A text with single delimiters inside of it keeps every other character when its words
are joined again (`join_words`). The kebab form of a text is such a text
(`exists_sentenceKebab_eq_join`), so it is known when a text of words and hyphens is
its own kebab form (`sentenceKebab_eq_self_iff`).
-/
namespace CommitStandard.Text

/-- Whether no word begins between two neighbours. -/
def Unbroken (s : Text) : Prop := s.IsChain fun a b => isBoundary a b = false

instance (s : Text) : Decidable (Unbroken s) :=
  inferInstanceAs (Decidable (s.IsChain fun a b => isBoundary a b = false))

section Separation

variable {s delimiter : Text}

theorem separate_eq_self (h : Unbroken s) (delimiter : Text) : separate delimiter s = s := by
  fun_induction separate delimiter s with
  | case1 => rfl
  | case2 a => rfl
  | case3 a b rest hb ih =>
    rw [Unbroken, List.isChain_cons_cons, hb] at h
    exact absurd h.1 (by simp)
  | case4 a b rest hb ih =>
    rw [Unbroken, List.isChain_cons_cons] at h
    rw [ih h.2]

theorem length_le_length_separate (delimiter s : Text) :
    s.length ≤ (separate delimiter s).length := by
  fun_induction separate delimiter s with
  | case1 => exact le_rfl
  | case2 a => exact le_rfl
  | case3 a b rest hb ih =>
    simp only [List.length_cons, List.length_append]
    omega
  | case4 a b rest hb ih =>
    simp only [List.length_cons] at ih ⊢
    omega

/-- A text in which a word begins becomes longer. -/
theorem length_lt_length_separate (h : ¬Unbroken s) (hd : delimiter ≠ []) :
    s.length < (separate delimiter s).length := by
  fun_induction separate delimiter s with
  | case1 => exact absurd List.isChain_nil h
  | case2 a => exact absurd (List.isChain_singleton a) h
  | case3 a b rest hb ih =>
    have hrest := length_le_length_separate delimiter rest
    have hpos := List.length_pos_iff.mpr hd
    simp only [List.length_cons, List.length_append]
    omega
  | case4 a b rest hb ih =>
    have hrest : ¬Unbroken (b :: rest) := fun hrest =>
      h (List.isChain_cons_cons.mpr ⟨by simpa using hb, hrest⟩)
    have := ih hrest
    simp only [List.length_cons] at this ⊢
    omega

theorem head?_separate (delimiter s : Text) : (separate delimiter s).head? = s.head? := by
  fun_induction separate delimiter s <;> rfl

theorem getLast?_separate (delimiter s : Text) :
    (separate delimiter s).getLast? = s.getLast? := by
  fun_induction separate delimiter s with
  | case1 => rfl
  | case2 a => rfl
  | case3 a b rest hb ih =>
    simp [List.getLast?_cons, List.getLast?_append, ih]
  | case4 a b rest hb ih =>
    simp [List.getLast?_cons, ih]

/-- Words begin only between letters and digits. -/
theorem isDelimiter_of_isBoundary {a b : Char} (h : isBoundary a b = true) :
    isDelimiter a = false ∧ isDelimiter b = false := by
  have hletter : ∀ c, asciiLetter c = true → isDelimiter c = false := fun c =>
    isCaseless_isDelimiter.eq_false (by decide)
  have hdigit : ∀ c, isDigit c = true → isDelimiter c = false := fun c =>
    isCaseless_isDelimiter.eq_false (by decide)
  simp only [isBoundary, Bool.or_eq_true, Bool.and_eq_true] at h
  obtain (⟨ha, hb⟩ | ⟨ha, hb⟩) | ⟨ha, hb⟩ := h
  · exact ⟨hletter a (by simp [asciiLetter, ha]), hletter b (by simp [asciiLetter, hb])⟩
  · exact ⟨hletter a ha, hdigit b hb⟩
  · exact ⟨hdigit a ha, hletter b hb⟩

end Separation

/-- A text whose delimiters stand alone and inside of it. -/
structure IsSpaced (s : Text) : Prop where
  head : ∀ c, s.head? = some c → isDelimiter c = false
  last : ∀ c, s.getLast? = some c → isDelimiter c = false
  apart : s.IsChain fun a b => isDelimiter a = false ∨ isDelimiter b = false

/-- The text with one character for every delimiter. -/
def withDelimiter (c : Char) (s : Text) : Text := s.map fun d => if isDelimiter d then c else d

theorem withDelimiter_eq_self {c : Char} {s : Text} (h : ∀ d ∈ s, isDelimiter d = true → d = c) :
    withDelimiter c s = s := by
  refine (List.map_congr_left fun d hd => ?_).trans (List.map_id s)
  split
  · rename_i hdelimiter
    exact (h d hd hdelimiter).symm
  · rfl

section Joining

variable {s : Text}

theorem isSpaced_separate (h : IsSpaced s) : IsSpaced (separate [' '] s) where
  head := fun c hc => h.head c (by rwa [head?_separate] at hc)
  last := fun c hc => h.last c (by rwa [getLast?_separate] at hc)
  apart := by
    have happart := h.apart
    clear h
    fun_induction separate [' '] s with
    | case1 => exact List.isChain_nil
    | case2 a => exact List.isChain_singleton a
    | case3 a b rest hb ih =>
      obtain ⟨ha, hb⟩ := isDelimiter_of_isBoundary hb
      have hrest := (List.isChain_cons_cons.mp happart).2
      exact List.isChain_cons_cons.mpr ⟨Or.inl ha, List.isChain_cons_cons.mpr ⟨Or.inr hb,
        List.isChain_cons.mpr ⟨fun _ _ => Or.inl hb, ih (List.isChain_cons.mp hrest).2⟩⟩⟩
    | case4 a b rest hb ih =>
      obtain ⟨hab, hrest⟩ := List.isChain_cons_cons.mp happart
      refine List.isChain_cons.mpr ⟨fun c hc => ?_, ih hrest⟩
      rw [head?_separate] at hc
      obtain rfl := Option.some.inj hc
      exact hab

/-- A run of one delimiter becomes a space. -/
theorem replaceRuns_eq_withDelimiter : ∀ {s : Text},
    (s.IsChain fun a b => isDelimiter a = false ∨ isDelimiter b = false) →
    replaceRuns (fun _ => [' ']) s = withDelimiter ' ' s
  | [], _ => rfl
  | [c], _ => by
    cases hc : isDelimiter c <;> simp [replaceRuns, replaceRunsFrom, replaced, withDelimiter, hc]
  | c :: d :: rest, h => by
    obtain ⟨hcd, hrest⟩ := List.isChain_cons_cons.mp h
    cases hc : isDelimiter c with
    | false =>
      have ih := replaceRuns_eq_withDelimiter hrest
      rw [replaceRuns] at ih
      rw [replaceRuns, replaceRunsFrom, if_neg (by simp [hc]), ih]
      simp [replaced, withDelimiter, hc]
    | true =>
      have hd : isDelimiter d = false := hcd.resolve_left (by simp [hc])
      have ih := replaceRuns_eq_withDelimiter (List.isChain_cons.mp hrest).2
      rw [replaceRuns] at ih
      rw [replaceRuns, replaceRunsFrom, if_pos hc, replaceRunsFrom, if_neg (by simp [hd]), ih]
      simp [replaced, withDelimiter, hc, hd]

/-- A piece is empty only at an end of the text or between two separators. -/
theorem nil_notMem_pieces {c : Char} (hne : s ≠ []) (hhead : s.head? ≠ some c)
    (hlast : s.getLast? ≠ some c) (hapart : s.IsChain fun a b => a ≠ c ∨ b ≠ c) :
    [] ∉ pieces c s := by
  intro hmem
  obtain ⟨ps, qs, hpieces⟩ := List.append_of_mem hmem
  have hs := join_pieces c s
  rw [hpieces] at hs
  by_cases hq : qs = []
  · by_cases hp : ps = []
    · rw [hp, hq] at hs
      exact hne hs.symm
    · rw [hq, join_append [c] hp (by simp)] at hs
      exact hlast (by rw [← hs]; simp)
  · have htail : join [c] ([] :: qs) = c :: join [c] qs := by rw [join_cons [c] [] hq]; rfl
    by_cases hp : ps = []
    · rw [hp, List.nil_append, htail] at hs
      exact hhead (by rw [← hs]; rfl)
    · rw [join_append [c] hp (by simp), htail, List.append_assoc, List.singleton_append] at hs
      rw [← hs] at hapart
      have hpair := (List.isChain_append.mp hapart).2.1
      exact absurd (List.isChain_cons_cons.mp hpair).1 (by simp)

/-- Joining pieces again puts another text in the place of the separators. -/
theorem join_pieces_eq_flatMap (sep : Text) (c : Char) (s : Text) :
    join sep (pieces c s) = s.flatMap fun d => if d = c then sep else [d] := by
  induction s with
  | nil => rfl
  | cons d s ih =>
    rw [List.flatMap_cons, ← ih, pieces]
    split
    · rw [join_cons _ _ (pieces_ne_nil c s)]
      rfl
    · rw [join_consHead _ _ (pieces_ne_nil c s)]
      rfl

theorem ite_isDelimiter_eq_space_iff {c : Char} :
    (if isDelimiter c then ' ' else c) = ' ' ↔ isDelimiter c = true := by
  split
  · simp [*]
  · rename_i hc
    refine ⟨?_, fun hd => absurd hd hc⟩
    rintro rfl
    exact absurd rfl hc

theorem nil_notMem_pieces_withDelimiter (h : IsSpaced s) (hne : s ≠ []) :
    [] ∉ pieces ' ' (withDelimiter ' ' s) := by
  refine nil_notMem_pieces (by simpa [withDelimiter] using hne) ?_ ?_ ?_
  · rw [withDelimiter, List.head?_map]
    intro hhead
    obtain ⟨c, hc, hblank⟩ := Option.map_eq_some_iff.mp hhead
    exact absurd (ite_isDelimiter_eq_space_iff.mp hblank) (by simp [h.head c hc])
  · rw [withDelimiter, List.getLast?_map]
    intro hlast
    obtain ⟨c, hc, hblank⟩ := Option.map_eq_some_iff.mp hlast
    exact absurd (ite_isDelimiter_eq_space_iff.mp hblank) (by simp [h.last c hc])
  · rw [withDelimiter, List.isChain_map]
    refine h.apart.imp fun a b hab => ?_
    rw [Ne, Ne, ite_isDelimiter_eq_space_iff, ite_isDelimiter_eq_space_iff]
    simpa using hab

theorem join_pieces_withDelimiter (c : Char) (s : Text) :
    join [c] (pieces ' ' (withDelimiter ' ' s)) = withDelimiter c s := by
  rw [join_pieces_eq_flatMap, withDelimiter, withDelimiter, List.flatMap_map, List.map_eq_flatMap]
  refine List.flatMap_congr fun d _ => ?_
  by_cases hd : isDelimiter d = true
  · rw [if_pos (ite_isDelimiter_eq_space_iff.mpr hd), if_pos hd]
  · rw [if_neg fun hs => hd (ite_isDelimiter_eq_space_iff.mp hs), if_neg hd, if_neg hd]

/-- Joining the words again keeps all else of a text with single delimiters. -/
theorem join_words (h : IsSpaced s) (c : Char) :
    join [c] (words s) = withDelimiter c (separate [' '] s) := by
  have hspaced : spaced s = withDelimiter ' ' (separate [' '] s) :=
    replaceRuns_eq_withDelimiter (isSpaced_separate h).apart
  rw [words, hspaced]
  by_cases hnil : separate [' '] s = []
  · rw [hnil]
    rfl
  have hfilter : ((pieces ' ' (withDelimiter ' ' (separate [' '] s))).filter fun w => !w.isEmpty) =
      pieces ' ' (withDelimiter ' ' (separate [' '] s)) := by
    rw [List.filter_eq_self]
    intro w hw
    cases w with
    | nil => exact absurd hw (nil_notMem_pieces_withDelimiter (isSpaced_separate h) hnil)
    | cons c w => rfl
  rw [hfilter, join_pieces_withDelimiter]

/-- The words of a text in which one begins inside of another make a longer text. -/
theorem length_lt_length_join_words (h : IsSpaced s) (hbroken : ¬Unbroken s) (c : Char) :
    s.length < (join [c] (words s)).length := by
  rw [join_words h, withDelimiter, List.length_map]
  exact length_lt_length_separate hbroken (by simp)

end Joining

/-- A text that holds characters, and no delimiter among them. -/
structure IsSolid (w : Text) : Prop where
  ne_nil : w ≠ []
  isDelimiter_eq_false : ∀ c ∈ w, isDelimiter c = false

theorem isSolid_of_mem_words {s w : Text} (hw : w ∈ words s) : IsSolid w where
  ne_nil := by simpa using (List.mem_filter.mp hw).2
  isDelimiter_eq_false := fun _ hc => (mem_of_mem_words hw hc).2

section Undelimited

variable {s : Text}

def undelimited (s : Text) : Text := s.filter fun c => !isDelimiter c

theorem undelimited_separate (s : Text) : undelimited (separate [' '] s) = undelimited s := by
  have hspace : isDelimiter ' ' = true := rfl
  unfold undelimited
  fun_induction separate [' '] s with
  | case1 => rfl
  | case2 a => rfl
  | case3 a b rest hb ih => simp [List.filter_cons, hspace, ih]
  | case4 a b rest hb ih => rw [List.filter_cons, List.filter_cons, ih]

theorem undelimited_replaceRunsFrom (run s : Text) :
    undelimited (replaceRunsFrom (fun _ => [' ']) run s) = undelimited s := by
  have hreplaced : ∀ r : Text,
      (replaced (fun _ => [' ']) r).filter (fun c => !isDelimiter c) = [] := by
    intro r
    unfold replaced
    split <;> rfl
  unfold undelimited
  induction s generalizing run with
  | nil => exact hreplaced _
  | cons c s ih =>
    rw [replaceRunsFrom]
    split
    · rename_i hc
      rw [ih, List.filter_cons, hc]
      rfl
    · rw [List.filter_append, hreplaced, List.nil_append, List.filter_cons, ih, List.filter_cons]

theorem undelimited_join {sep : Text} (hsep : undelimited sep = []) (ps : List Text) :
    undelimited (join sep ps) = undelimited ps.flatten :=
  filter_join hsep ps

/-- Taking a text apart into words loses only delimiters. -/
theorem flatten_words (s : Text) : (words s).flatten = undelimited s := by
  have hsolid : undelimited (words s).flatten = (words s).flatten := by
    refine List.filter_eq_self.mpr fun c hc => ?_
    obtain ⟨w, hw, hc⟩ := List.mem_flatten.mp hc
    simp [(isSolid_of_mem_words hw).isDelimiter_eq_false c hc]
  calc (words s).flatten = undelimited (words s).flatten := hsolid.symm
    _ = undelimited (pieces ' ' (spaced s)).flatten := by
      rw [words, List.flatten_filter_not_isEmpty]
    _ = undelimited (join [' '] (pieces ' ' (spaced s))) := (undelimited_join rfl _).symm
    _ = undelimited (spaced s) := by rw [join_pieces]
    _ = undelimited (separate [' '] s) := undelimited_replaceRunsFrom [] _
    _ = undelimited s := undelimited_separate s

theorem undelimited_undelimited (s : Text) : undelimited (undelimited s) = undelimited s := by
  simp [undelimited]

theorem undelimited_join_words (s : Text) : undelimited (join ['-'] (words s)) = undelimited s := by
  rw [undelimited_join rfl, flatten_words, undelimited_undelimited]

end Undelimited

section Casing

/-- Casing takes no character away. -/
theorem mapped_ne_nil {expansions : List (Nat × List Nat)}
    {rows : List (Nat × Nat × Nat × Int)} (h : (expansions.all fun e => !e.2.isEmpty) = true)
    (c : Char) : mapped expansions rows c ≠ [] := by
  unfold mapped
  split
  · rename_i ns hns
    obtain ⟨before, after, he, -⟩ := List.lookup_eq_some_iff.mp hns
    have hfull := List.all_eq_true.mp h (c.toNat, ns) (by rw [he]; simp)
    simpa using hfull
  · split <;> simp

theorem lowerChar_ne_nil (c : Char) : lowerChar c ≠ [] := by
  unfold lowerChar
  split
  · simp
  · exact mapped_ne_nil (by decide) c

theorem upperChar_ne_nil (c : Char) : upperChar c ≠ [] := by
  unfold upperChar
  split
  · simp
  · exact mapped_ne_nil (by decide) c

theorem length_le_length_lowerAfter (afterCased : Bool) (s : Text) :
    s.length ≤ (lowerAfter afterCased s).length := by
  induction s generalizing afterCased with
  | nil => exact le_rfl
  | cons c s ih =>
    have hc := List.length_pos_iff.mpr (lowerChar_ne_nil c)
    have hs := ih (if isIgnorable c then afterCased else isCased c)
    rw [lowerAfter, List.length_append, List.length_cons]
    split
    · rw [List.length_singleton]
      omega
    · omega

theorem length_le_length_upper (s : Text) : s.length ≤ (upper s).length := by
  induction s with
  | nil => exact le_rfl
  | cons c s ih =>
    have hc := List.length_pos_iff.mpr (upperChar_ne_nil c)
    have hs : upper (c :: s) = upperChar c ++ upper s := List.flatMap_cons
    rw [hs, List.length_append, List.length_cons]
    omega

theorem length_le_length_capitalize (s : Text) : s.length ≤ (capitalize s).length := by
  cases s with
  | nil => exact le_rfl
  | cons c s =>
    have hc := List.length_pos_iff.mpr (upperChar_ne_nil c)
    rw [capitalize, List.length_append, List.length_cons]
    omega

theorem capitalize_append {s : Text} (hs : s ≠ []) (t : Text) :
    capitalize (s ++ t) = capitalize s ++ t := by
  obtain ⟨c, s, rfl⟩ := List.exists_cons_of_ne_nil hs
  simp [capitalize]

/-- A character that casing keeps and does not look through, so that it parts words for it. -/
structure IsDivider (c : Char) : Prop where
  isIgnorable_eq_false : isIgnorable c = false
  isCased_eq_false : isCased c = false
  lowerChar_eq : lowerChar c = [c]

theorem isDivider_space : IsDivider ' ' := ⟨by decide, by decide, by decide⟩

theorem isDivider_hyphen : IsDivider '-' := ⟨by decide, by decide, by decide⟩

theorem isDivider_underscore : IsDivider '_' := ⟨by decide, by decide, by decide⟩

namespace IsDivider

variable {c : Char} (hc : IsDivider c)

include hc

theorem startsCased_append (s t : Text) : startsCased (s ++ c :: t) = startsCased s := by
  induction s with
  | nil =>
    simp [startsCased, hc.isIgnorable_eq_false, hc.isCased_eq_false]
  | cons d s ih =>
    rw [List.cons_append, startsCased, startsCased, ih]

/-- The words before and after a divider are lowered on their own. -/
theorem lowerAfter_append (afterCased : Bool) (s t : Text) :
    lowerAfter afterCased (s ++ c :: t) = lowerAfter afterCased s ++ c :: lower t := by
  induction s generalizing afterCased with
  | nil =>
    have hsigma : c ≠ 'Σ' := by
      rintro rfl
      exact absurd hc.isCased_eq_false (by decide)
    simp [lowerAfter, hsigma, hc.lowerChar_eq, hc.isIgnorable_eq_false, hc.isCased_eq_false, lower]
  | cons d s ih =>
    rw [List.cons_append, lowerAfter, lowerAfter, hc.startsCased_append, ih, List.append_assoc]

theorem lower_join (ws : List Text) : lower (join [c] ws) = join [c] (ws.map lower) := by
  induction ws with
  | nil => rfl
  | cons w ws ih =>
    by_cases hws : ws = []
    · rw [hws, List.map_singleton, join_singleton, join_singleton]
    · rw [List.map_cons, join_cons _ _ hws, join_cons _ _ (by simpa using hws), ← ih,
        List.append_assoc, List.append_assoc, List.singleton_append, List.singleton_append, lower,
        hc.lowerAfter_append]
      rfl

end IsDivider

theorem head?_join {w : Text} (hw : w ≠ []) (sep : Text) (ws : List Text) :
    (join sep (w :: ws)).head? = w.head? := by
  by_cases hws : ws = []
  · rw [hws, join_singleton]
  · rw [join_cons _ _ hws, List.append_assoc, List.head?_append_of_ne_nil _ hw]

theorem capitalize_join {w : Text} (hw : w ≠ []) (sep : Text) (ws : List Text) :
    capitalize (join sep (w :: ws)) = join sep (capitalize w :: ws) := by
  by_cases hws : ws = []
  · rw [hws, join_singleton, join_singleton]
  · rw [join_cons _ _ hws, join_cons _ _ hws, List.append_assoc, List.append_assoc,
      capitalize_append hw]

namespace IsSolid

variable {w : Text}

/-- Another text that is no shorter and has no other delimiters. -/
theorem of_length_le {v : Text} (h : IsSolid w) (hlength : w.length ≤ v.length)
    (hv : ∀ c ∈ v, isDelimiter c = true → c ∈ w) : IsSolid v where
  ne_nil := by
    have hpos := List.length_pos_iff.mpr h.ne_nil
    exact List.length_pos_iff.mp (hpos.trans_le hlength)
  isDelimiter_eq_false := by
    intro c hc
    rw [← Bool.not_eq_true]
    intro hd
    exact absurd hd (by simp [h.isDelimiter_eq_false c (hv c hc hd)])

theorem lower (h : IsSolid w) : IsSolid (lower w) :=
  h.of_length_le (length_le_length_lowerAfter false w) fun _ hc =>
    isCaseless_isDelimiter.mem_of_mem_lower hc

theorem upper (h : IsSolid w) : IsSolid (upper w) :=
  h.of_length_le (length_le_length_upper w) fun _ hc => isCaseless_isDelimiter.mem_of_mem_upper hc

theorem capitalize (h : IsSolid w) : IsSolid (capitalize w) :=
  h.of_length_le (length_le_length_capitalize w) fun _ hc =>
    isCaseless_isDelimiter.mem_of_mem_capitalize hc

end IsSolid

end Casing

section Kebab

variable {s : Text} {ws : List Text} {c : Char}

theorem IsSolid.isSpaced {w : Text} (hw : IsSolid w) : IsSpaced w where
  head := fun c hc => hw.isDelimiter_eq_false c (List.mem_of_mem_head? hc)
  last := fun c hc => hw.isDelimiter_eq_false c (List.mem_of_mem_getLast? hc)
  apart := (List.pairwise_of_forall_mem_list fun c hc _ _ =>
    Or.inl (hw.isDelimiter_eq_false c hc)).isChain

/-- One more word before the others. -/
theorem IsSolid.isSpaced_append {w : Text} (hw : IsSolid w) (hs : IsSpaced s) (hne : s ≠ [])
    (c : Char) : IsSpaced (w ++ c :: s) where
  head := fun d hd => by
    rw [List.head?_append_of_ne_nil _ hw.ne_nil] at hd
    exact hw.isSpaced.head d hd
  last := fun d hd => by
    rw [List.getLast?_append_of_ne_nil _ (by simp), List.getLast?_cons_of_ne_nil hne] at hd
    exact hs.last d hd
  apart := List.isChain_append.mpr ⟨hw.isSpaced.apart,
    List.isChain_cons.mpr ⟨fun d hd => Or.inr (hs.head d hd), hs.apart⟩,
    fun d hd _ _ => Or.inl (hw.isSpaced.last d hd)⟩

theorem isSpaced_join (h : ∀ w ∈ ws, IsSolid w) : IsSpaced (join [c] ws) := by
  induction ws with
  | nil => exact ⟨by simp, by simp, List.isChain_nil⟩
  | cons w ws ih =>
    have hw := h w List.mem_cons_self
    have hws := ih fun v hv => h v (List.mem_cons_of_mem w hv)
    by_cases hnil : ws = []
    · rw [hnil, join_singleton]
      exact hw.isSpaced
    · rw [join_cons _ _ hnil, List.append_assoc, List.singleton_append]
      refine hw.isSpaced_append hws ?_ c
      obtain ⟨v, hv⟩ := List.exists_mem_of_ne_nil ws hnil
      obtain ⟨c, hc⟩ := List.exists_mem_of_ne_nil v (h v (List.mem_cons_of_mem w hv)).ne_nil
      exact List.ne_nil_of_mem (mem_join_of_mem hv hc)

theorem withDelimiter_join (h : ∀ w ∈ ws, IsSolid w) :
    withDelimiter c (join [c] ws) = join [c] ws := by
  refine withDelimiter_eq_self fun d hd hdelimiter => ?_
  rcases mem_join hd with hd | ⟨w, hw, hd⟩
  · exact List.mem_singleton.mp hd
  · exact absurd hdelimiter (by simp [(h w hw).isDelimiter_eq_false d hd])

/-- Words that are joined, with no word beginning inside of another, are the words of the text. -/
theorem join_words_join (h : ∀ w ∈ ws, IsSolid w) (hunbroken : Unbroken (join [c] ws)) :
    join [c] (words (join [c] ws)) = join [c] ws := by
  rw [join_words (isSpaced_join h), separate_eq_self hunbroken, withDelimiter_join h]

/-- The kebab form of a text is made of words and hyphens. -/
theorem exists_sentenceKebab_eq_join (s : Text) :
    ∃ ws, sentenceKebab s = join ['-'] ws ∧ ∀ w ∈ ws, IsSolid w := by
  have hkebab : sentenceKebab s = capitalize (join ['-'] ((words s).map lower)) := by
    rw [sentenceKebab, kebab, isDivider_hyphen.lower_join]
  have hsolid : ∀ w ∈ (words s).map lower, IsSolid w := by
    intro w hw
    obtain ⟨v, hv, rfl⟩ := List.mem_map.mp hw
    exact (isSolid_of_mem_words hv).lower
  cases hws : (words s).map lower with
  | nil => exact ⟨[], by rw [hkebab, hws]; rfl, by simp⟩
  | cons w ws =>
    rw [hws] at hsolid
    have hw := hsolid w List.mem_cons_self
    refine ⟨capitalize w :: ws, by rw [hkebab, hws, capitalize_join hw.ne_nil], ?_⟩
    intro v hv
    rcases List.mem_cons.mp hv with rfl | hv
    · exact hw.capitalize
    · exact hsolid v (List.mem_cons_of_mem w hv)

/-- A text of words and hyphens is its own kebab form if no word begins inside of another and it
is in lower case but for its beginning. -/
theorem sentenceKebab_eq_self_iff (h : ∀ w ∈ ws, IsSolid w) (hs : s = join ['-'] ws) :
    sentenceKebab s = s ↔ Unbroken s ∧ capitalize (lower s) = s := by
  have hspaced : IsSpaced s := hs ▸ isSpaced_join h
  have hwords : Unbroken s → join ['-'] (words s) = s := by
    rw [hs]
    exact join_words_join h
  constructor
  · intro hself
    have hunbroken : Unbroken s := by
      by_contra hbroken
      have hlonger := length_lt_length_join_words hspaced hbroken '-'
      have hlower := length_le_length_lowerAfter false (join ['-'] (words s))
      have hcapital := length_le_length_capitalize (kebab s)
      rw [← sentenceKebab, hself] at hcapital
      exact absurd (hlonger.trans_le (hlower.trans hcapital)) (lt_irrefl _)
    refine ⟨hunbroken, ?_⟩
    rwa [sentenceKebab, kebab, hwords hunbroken] at hself
  · rintro ⟨hunbroken, hcased⟩
    rw [sentenceKebab, kebab, hwords hunbroken, hcased]

end Kebab

end CommitStandard.Text
