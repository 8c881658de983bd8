import Mathlib.Tactic
import CommitStandard.Footer
import CommitStandard.Proofs.Text.Lines

/-!
# Characters that stay out of words

Blanks, the colon and the number sign have a meaning in the layout of a message.
They are no word characters, and neither casing nor taking a text apart into
words produces one that was not in the text. Casing makes no delimiter of another
character either (`IsCaseless`). A token in its normal spelling
therefore has none of them, apart from the space in the token of a breaking
change. Its other words are in lower case, so that capital letters of ASCII stand
only at its beginning (`asciiUpper_of_mem_drop_sentenceKebab`).
-/
namespace CommitStandard

namespace Text

/-- Whether a character has a meaning in the layout of a message. -/
def isSign (c : Char) : Bool := isBlank c || c = ':' || c = '#'

/-- The code points of blanks, the colon and the number sign. -/
def signCodes : List Nat :=
  [0x09, 0x0a, 0x0b, 0x0c, 0x0d, 0x1c, 0x1d, 0x1e, 0x1f, 0x20, 0x23, 0x3a, 0x85, 0xa0, 0x1680,
   0x2000, 0x2001, 0x2002, 0x2003, 0x2004, 0x2005, 0x2006, 0x2007, 0x2008, 0x2009, 0x200a,
   0x2028, 0x2029, 0x202f, 0x205f, 0x3000]

/-- The code points of the characters that stand between words. -/
def delimiterCodes : List Nat :=
  [0x09, 0x0a, 0x0b, 0x0c, 0x0d, 0x1c, 0x1d, 0x1e, 0x1f, 0x20, 0x2d, 0x5f, 0x85, 0xa0, 0x1680,
   0x2000, 0x2001, 0x2002, 0x2003, 0x2004, 0x2005, 0x2006, 0x2007, 0x2008, 0x2009, 0x200a,
   0x2028, 0x2029, 0x202f, 0x205f, 0x3000]

theorem isSign_of_isBlank {c : Char} (h : isBlank c = true) : isSign c = true := by
  simp [isSign, h]

theorem toNat_mem_signCodes {c : Char} (h : isSign c = true) : c.toNat ∈ signCodes := by
  simp only [isSign, isBlank, inRanges, Bool.or_eq_true, Bool.and_eq_true, decide_eq_true_eq,
    Bool.false_eq_true, or_false] at h
  rcases h with (h | rfl) | rfl
  · simp only [signCodes, List.mem_cons, List.not_mem_nil, or_false]
    omega
  · decide
  · decide

theorem toNat_mem_delimiterCodes {c : Char} (h : isDelimiter c = true) :
    c.toNat ∈ delimiterCodes := by
  simp only [isDelimiter, isBlank, inRanges, Bool.or_eq_true, Bool.and_eq_true, decide_eq_true_eq,
    Bool.false_eq_true, or_false] at h
  rcases h with (h | rfl) | rfl
  · simp only [delimiterCodes, List.mem_cons, List.not_mem_nil, or_false]
    omega
  · decide
  · decide

theorem exists_of_shifted? {n m : Nat} {rows : List (Nat × Nat × Nat × Int)}
    (h : shifted? n rows = some m) :
    ∃ row ∈ rows, row.1 ≤ n ∧ n ≤ row.2.1 ∧ (n - row.1) % row.2.2.1 = 0 ∧
      m = (n + row.2.2.2).toNat := by
  induction rows with
  | nil => simp [shifted?] at h
  | cons row rows ih =>
    obtain ⟨first, last, step, offset⟩ := row
    rw [shifted?] at h
    split at h
    · rename_i hrow
      simp only [Bool.and_eq_true, decide_eq_true_eq, beq_iff_eq] at hrow
      exact ⟨_, List.mem_cons_self, hrow.1.1, hrow.1.2, hrow.2, (Option.some.inj h).symm⟩
    · obtain ⟨row, hmem, hrow⟩ := ih h
      exact ⟨row, List.mem_cons_of_mem _ hmem, hrow⟩

/-- A mapped character is the character itself, or it comes from an expansion or a shift. -/
theorem cases_of_mem_mapped {expansions : List (Nat × List Nat)}
    {rows : List (Nat × Nat × Nat × Int)} {c d : Char} (hd : d ∈ mapped expansions rows c) :
    d = c ∨ (∃ e ∈ expansions, e.1 = c.toNat ∧ ∃ n ∈ e.2, d = Char.ofNat n) ∨
      ∃ row ∈ rows, row.1 ≤ c.toNat ∧ c.toNat ≤ row.2.1 ∧ (c.toNat - row.1) % row.2.2.1 = 0 ∧
        d = Char.ofNat (c.toNat + row.2.2.2).toNat := by
  unfold mapped at hd
  split at hd
  · rename_i ns hns
    obtain ⟨n, hn, rfl⟩ := List.mem_map.mp hd
    obtain ⟨before, after, he, -⟩ := List.lookup_eq_some_iff.mp hns
    exact Or.inr (Or.inl ⟨(c.toNat, ns), by rw [he]; simp, rfl, n, hn, rfl⟩)
  · split at hd
    · rename_i m hm
      obtain ⟨row, hrow, hfirst, hlast, hstep, rfl⟩ := exists_of_shifted? hm
      exact Or.inr (Or.inr ⟨row, hrow, hfirst, hlast, hstep, List.mem_singleton.mp hd⟩)
    · exact Or.inl (List.mem_singleton.mp hd)

/-- Whether no expansion and no shift of a table ends at one of the code points. -/
def spares (codes : List Nat) (expansions : List (Nat × List Nat))
    (rows : List (Nat × Nat × Nat × Int)) : Bool :=
  (expansions.all fun e => e.2.all fun n => !codes.contains n) &&
    rows.all fun row => codes.all fun n =>
      decide ((n : Int) < row.1 + row.2.2.2 ∨ row.2.1 + row.2.2.2 < n ∨
        (n - (row.1 + row.2.2.2)) % row.2.2.1 ≠ 0)

/-- Whether a code point is neither zero, nor that of a letter of ASCII or of a small sigma. -/
def isUnlettered (n : Nat) : Bool :=
  n != 0 && !(0x41 ≤ n && n ≤ 0x5a) && !(0x61 ≤ n && n ≤ 0x7a) && n != 0x3c2 && n != 0x3c3

/-- A class of characters, with their code points among those listed, that casing makes of no other
characters. -/
structure IsCaseless (p : Char → Bool) (codes : List Nat) : Prop where
  mem_codes : ∀ c, p c = true → c.toNat ∈ codes
  unlettered : ∀ n ∈ codes, isUnlettered n = true
  lower : spares codes Table.lowerExpansion Table.lowerShift = true
  upper : spares codes Table.upperExpansion Table.upperShift = true

theorem isCaseless_isSign : IsCaseless isSign signCodes :=
  ⟨fun _ => toNat_mem_signCodes, by decide, by decide +kernel, by decide +kernel⟩

theorem isCaseless_isDelimiter : IsCaseless isDelimiter delimiterCodes :=
  ⟨fun _ => toNat_mem_delimiterCodes, by decide, by decide +kernel, by decide +kernel⟩

namespace IsCaseless

variable {p : Char → Bool} {codes : List Nat} (hp : IsCaseless p codes) {c d : Char} {s : Text}

include hp

theorem eq_false_of_notMem {n : Nat} (h : n ∉ codes) : p (Char.ofNat n) = false := by
  rw [← Bool.not_eq_true]
  intro hs
  have hmem := hp.mem_codes _ hs
  unfold Char.ofNat at hmem
  by_cases hvalid : n.isValidChar
  · rw [dif_pos hvalid] at hmem
    exact h hmem
  · rw [dif_neg hvalid] at hmem
    exact absurd (hp.unlettered _ hmem) (by decide)

/-- Characters of another class that holds none of the code points. -/
theorem eq_false {q : Char → Bool} (hq : ∀ n ∈ codes, q (Char.ofNat n) = false)
    (h : q c = true) : p c = false := by
  rw [← Bool.not_eq_true]
  intro hs
  have := hq _ (hp.mem_codes _ hs)
  rw [Char.ofNat_toNat, h] at this
  exact absurd this (by simp)

theorem eq_of_mem_mapped {expansions : List (Nat × List Nat)}
    {rows : List (Nat × Nat × Nat × Int)} (ht : spares codes expansions rows = true)
    (hd : d ∈ mapped expansions rows c) (hs : p d = true) : d = c := by
  simp only [spares, Bool.and_eq_true, List.all_eq_true, Bool.not_eq_true',
    decide_eq_true_eq] at ht
  rcases cases_of_mem_mapped hd with
    h | ⟨e, he, -, n, hn, rfl⟩ | ⟨row, hrow, hfirst, hlast, hstep, rfl⟩
  · exact h
  · have hmem := ht.1 e he n hn
    rw [hp.eq_false_of_notMem (by simpa using hmem)] at hs
    exact absurd hs (by simp)
  · have hout : (c.toNat + row.2.2.2).toNat ∉ codes := by
      intro hmem
      have hpos : 0 < (c.toNat + row.2.2.2).toNat := by
        rw [Nat.pos_iff_ne_zero]
        intro h0
        rw [h0] at hmem
        exact absurd (hp.unlettered _ hmem) (by decide)
      have hspared := ht.2 row hrow _ hmem
      have hoffset : ((c.toNat + row.2.2.2).toNat : Int) - (row.1 + row.2.2.2) =
          ((c.toNat - row.1 : ℕ) : Int) := by
        omega
      have hstep' : (((c.toNat - row.1 : ℕ) : Int)) % (row.2.2.1 : Int) = 0 := by
        exact_mod_cast hstep
      rw [hoffset] at hspared
      omega
    rw [hp.eq_false_of_notMem hout] at hs
    exact absurd hs (by simp)

/-- The letters of ASCII are not of the class. -/
theorem eq_false_of_letter {n : Nat} (h : 0x41 ≤ n ∧ n ≤ 0x5a ∨ 0x61 ≤ n ∧ n ≤ 0x7a) :
    p (Char.ofNat n) = false := by
  refine hp.eq_false_of_notMem fun hmem => ?_
  have hletter := hp.unlettered _ hmem
  simp only [isUnlettered, Bool.and_eq_true, Bool.not_eq_true', Bool.and_eq_false_iff,
    decide_eq_false_iff_not] at hletter
  omega

/-- Upper case makes none of another character. -/
theorem eq_of_mem_upperChar (hd : d ∈ upperChar c) (hs : p d = true) : d = c := by
  unfold upperChar at hd
  split at hd
  · rcases List.mem_singleton.mp hd with rfl
    by_cases hc : asciiLower c
    · rw [if_pos hc] at hs ⊢
      simp only [asciiLower, Bool.and_eq_true, decide_eq_true_eq, Char.le_def,
        UInt32.le_iff_toNat_le] at hc
      have hrange : 0x61 ≤ c.toNat ∧ c.toNat ≤ 0x7a := hc
      rw [hp.eq_false_of_letter (by omega)] at hs
      exact absurd hs (by simp)
    · rw [if_neg hc]
  · exact hp.eq_of_mem_mapped hp.upper hd hs

/-- Lower case makes none of another character. -/
theorem eq_of_mem_lowerChar (hd : d ∈ lowerChar c) (hs : p d = true) : d = c := by
  unfold lowerChar at hd
  split at hd
  · rcases List.mem_singleton.mp hd with rfl
    by_cases hc : asciiUpper c
    · rw [if_pos hc] at hs ⊢
      simp only [asciiUpper, Bool.and_eq_true, decide_eq_true_eq, Char.le_def,
        UInt32.le_iff_toNat_le] at hc
      have hrange : 0x41 ≤ c.toNat ∧ c.toNat ≤ 0x5a := hc
      rw [hp.eq_false_of_letter (by omega)] at hs
      exact absurd hs (by simp)
    · rw [if_neg hc]
  · exact hp.eq_of_mem_mapped hp.lower hd hs

theorem mem_of_mem_lowerAfter {afterCased : Bool} (hd : d ∈ lowerAfter afterCased s)
    (hs : p d = true) : d ∈ s := by
  have hsigma : ∀ n, isUnlettered n = false → p (Char.ofNat n) = false := by
    intro n hn
    refine hp.eq_false_of_notMem fun hmem => ?_
    rw [hp.unlettered n hmem] at hn
    exact absurd hn (by simp)
  induction s generalizing afterCased with
  | nil => simp [lowerAfter] at hd
  | cons c s ih =>
    rw [lowerAfter] at hd
    rcases List.mem_append.mp hd with hd | hd
    · split at hd
      · rcases List.mem_singleton.mp hd with rfl
        split at hs
        · exact absurd (hs.symm.trans (hsigma 0x3c2 (by decide))) (by simp)
        · exact absurd (hs.symm.trans (hsigma 0x3c3 (by decide))) (by simp)
      · rw [hp.eq_of_mem_lowerChar hd hs]
        exact List.mem_cons_self
    · exact List.mem_cons_of_mem c (ih hd)

theorem mem_of_mem_lower (hd : d ∈ Text.lower s) (hs : p d = true) : d ∈ s :=
  hp.mem_of_mem_lowerAfter hd hs

theorem mem_of_mem_upper (hd : d ∈ Text.upper s) (hs : p d = true) : d ∈ s := by
  obtain ⟨c, hc, hd⟩ := List.mem_flatMap.mp hd
  rwa [hp.eq_of_mem_upperChar hd hs]

theorem mem_of_mem_capitalize (hd : d ∈ capitalize s) (hs : p d = true) : d ∈ s := by
  cases s with
  | nil => simp [capitalize] at hd
  | cons c s =>
    rcases List.mem_append.mp hd with hd | hd
    · rw [hp.eq_of_mem_upperChar hd hs]
      exact List.mem_cons_self
    · exact List.mem_cons_of_mem c hd

end IsCaseless

theorem isSign_of_isWord {c : Char} (h : isWord c = true) : isSign c = false :=
  isCaseless_isSign.eq_false (by decide +kernel) h

theorem isBlank_of_isWord {c : Char} (h : isWord c = true) : isBlank c = false := by
  have hs := isSign_of_isWord h
  rw [isSign, Bool.or_eq_false_iff, Bool.or_eq_false_iff] at hs
  exact hs.1.1

theorem mem_separate {s delimiter : Text} {d : Char} (h : d ∈ separate delimiter s) :
    d ∈ delimiter ∨ d ∈ s := by
  fun_induction separate delimiter s with
  | case1 => exact Or.inr h
  | case2 a => exact Or.inr h
  | case3 a b rest hb ih =>
    simp only [List.mem_cons, List.mem_append] at h ⊢
    rcases h with h | h | h | h
    · exact Or.inr (Or.inl h)
    · exact Or.inl h
    · exact Or.inr (Or.inr (Or.inl h))
    · rcases ih h with h | h
      · exact Or.inl h
      · exact Or.inr (Or.inr (Or.inr h))
  | case4 a b rest hb ih =>
    rcases List.mem_cons.mp h with h | h
    · exact Or.inr (List.mem_cons.mpr (Or.inl h))
    · rcases ih h with h | h
      · exact Or.inl h
      · exact Or.inr (List.mem_cons_of_mem a h)

/-- No delimiter is left but the space. -/
theorem mem_replaceRunsFrom {run s : Text} {d : Char}
    (h : d ∈ replaceRunsFrom (fun _ => [' ']) run s) :
    d = ' ' ∨ d ∈ s ∧ isDelimiter d = false := by
  have hrun : ∀ r : Text, d ∈ replaced (fun _ => [' ']) r → d = ' ' := by
    intro r hr
    unfold replaced at hr
    split at hr
    · simp at hr
    · exact List.mem_singleton.mp hr
  induction s generalizing run with
  | nil => exact Or.inl (hrun _ h)
  | cons c s ih =>
    rw [replaceRunsFrom] at h
    split at h
    · exact (ih h).imp_right fun hd => ⟨List.mem_cons_of_mem c hd.1, hd.2⟩
    · rename_i hc
      rcases List.mem_append.mp h with h | h
      · exact Or.inl (hrun _ h)
      · rcases List.mem_cons.mp h with rfl | h
        · exact Or.inr ⟨List.mem_cons_self, by simpa using hc⟩
        · exact (ih h).imp_right fun hd => ⟨List.mem_cons_of_mem c hd.1, hd.2⟩

/-- The characters of a word are in the text, and none is a delimiter. -/
theorem mem_of_mem_words {s w : Text} {d : Char} (hw : w ∈ words s) (hd : d ∈ w) :
    d ∈ s ∧ isDelimiter d = false := by
  have hp : w ∈ pieces ' ' (spaced s) := (List.mem_filter.mp hw).1
  have hne : d ≠ ' ' := by
    rintro rfl
    exact notMem_of_mem_pieces hp hd
  obtain ⟨hmem, hdelimiter⟩ := (mem_replaceRunsFrom (mem_of_mem_pieces hp hd)).resolve_left hne
  refine ⟨?_, hdelimiter⟩
  rcases mem_separate hmem with h | h
  · exact absurd (List.mem_singleton.mp h) hne
  · exact h

theorem mem_of_mem_sentenceKebab {s : Text} {d : Char} (hd : d ∈ sentenceKebab s)
    (hs : isSign d = true) : d ∈ s := by
  have hk : d ∈ join ['-'] (words s) :=
    isCaseless_isSign.mem_of_mem_lower (isCaseless_isSign.mem_of_mem_capitalize hd hs) hs
  rcases mem_join hk with h | ⟨w, hw, h⟩
  · rcases List.mem_singleton.mp h with rfl
    exact absurd hs (by decide)
  · exact (mem_of_mem_words hw h).1

section Capitals

/-- The code points of the capital letters of ASCII. -/
def isCapitalCode (n : Nat) : Bool := 0x41 ≤ n && n ≤ 0x5a

theorem isCapitalCode_of_asciiUpper {c : Char} (h : asciiUpper c = true) :
    isCapitalCode c.toNat = true := by
  simpa [asciiUpper, Char.le_def, UInt32.le_iff_toNat_le, isCapitalCode] using h

theorem isCapitalCode_of_ofNat {n : Nat} (h : asciiUpper (Char.ofNat n) = true) :
    isCapitalCode n = true := by
  have hcode := isCapitalCode_of_asciiUpper h
  unfold Char.ofNat at hcode
  by_cases hvalid : n.isValidChar
  · rwa [dif_pos hvalid] at hcode
  · rw [dif_neg hvalid] at hcode
    exact absurd hcode (by decide)

/-- Lower case has no capital letter of ASCII. -/
theorem asciiUpper_of_mem_lowerChar {c d : Char} (hd : d ∈ lowerChar c) :
    asciiUpper d = false := by
  rw [← Bool.not_eq_true]
  intro h
  unfold lowerChar at hd
  split at hd
  · rcases List.mem_singleton.mp hd with rfl
    by_cases hc : asciiUpper c = true
    · rw [if_pos hc] at h
      have hout := isCapitalCode_of_ofNat h
      have hin := isCapitalCode_of_asciiUpper hc
      simp only [isCapitalCode, Bool.and_eq_true, decide_eq_true_eq] at hin hout
      omega
    · rw [if_neg hc] at h
      exact hc h
  · rename_i hascii
    have hexpansions :
        (Table.lowerExpansion.all fun e => e.2.all fun n => !isCapitalCode n) = true := by
      decide +kernel
    have hrows : (Table.lowerShift.all fun row =>
        decide ((0x5a : Int) < row.1 + row.2.2.2 ∨ row.2.1 + row.2.2.2 < (0x41 : Int))) = true := by
      decide +kernel
    rw [List.all_eq_true] at hexpansions hrows
    rcases cases_of_mem_mapped hd with
      rfl | ⟨e, he, -, n, hn, rfl⟩ | ⟨row, hrow, hfirst, hlast, -, rfl⟩
    · have hcode := isCapitalCode_of_asciiUpper h
      simp only [isCapitalCode, Bool.and_eq_true, decide_eq_true_eq] at hcode
      omega
    · have hout := List.all_eq_true.mp (hexpansions e he) n hn
      rw [isCapitalCode_of_ofNat h] at hout
      exact absurd hout (by decide)
    · have hout := isCapitalCode_of_ofNat h
      have hrange := of_decide_eq_true (hrows row hrow)
      simp only [isCapitalCode, Bool.and_eq_true, decide_eq_true_eq] at hout
      omega

theorem asciiUpper_of_mem_lower {s : Text} {d : Char} (hd : d ∈ lower s) :
    asciiUpper d = false := by
  have hafter : ∀ (afterCased : Bool), d ∈ lowerAfter afterCased s → asciiUpper d = false := by
    clear hd
    induction s with
    | nil => simp [lowerAfter]
    | cons c s ih =>
      intro afterCased hd
      rw [lowerAfter] at hd
      rcases List.mem_append.mp hd with hd | hd
      · split at hd
        · rcases List.mem_singleton.mp hd with rfl
          split <;> decide
        · exact asciiUpper_of_mem_lowerChar hd
      · exact ih _ hd
  exact hafter false hd

theorem length_upperChar_le (c : Char) : (upperChar c).length ≤ 3 := by
  unfold upperChar
  split
  · simp
  · have htable : (Table.upperExpansion.all fun e => decide (e.2.length ≤ 3)) = true := by
      decide +kernel
    unfold mapped
    split
    · rename_i ns hns
      obtain ⟨before, after, he, -⟩ := List.lookup_eq_some_iff.mp hns
      rw [List.length_map]
      exact of_decide_eq_true (List.all_eq_true.mp htable (c.toNat, ns) (by rw [he]; simp))
    · split <;> simp

/-- Only the beginning of a text in sentence case can have capital letters of ASCII. -/
theorem asciiUpper_of_mem_drop_sentenceKebab {s : Text} {d : Char}
    (hd : d ∈ (sentenceKebab s).drop 3) : asciiUpper d = false := by
  rw [sentenceKebab, kebab] at hd
  cases hl : lower (join ['-'] (words s)) with
  | nil =>
    rw [hl] at hd
    simp [capitalize] at hd
  | cons c rest =>
    rw [hl, capitalize, List.drop_append,
      List.drop_eq_nil_of_le (length_upperChar_le c), List.nil_append] at hd
    have hrest : d ∈ c :: rest := List.mem_cons_of_mem c (List.mem_of_mem_drop hd)
    exact asciiUpper_of_mem_lower (hl ▸ hrest)

end Capitals

end Text

end CommitStandard
