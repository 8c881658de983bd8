import Mathlib.Tactic
import CommitStandard.Proofs.Text.Words

/-!
# The casing of word characters

Casing leaves the word characters with two exceptions. A capital I with a dot is lowered to a
letter and a combining dot (`isWord_of_mem_lowerChar`). A few small letters have no capital
of their own and are raised to a letter with combining marks, such as the j with a caron
(`hasMarkedCapital`). These letters stay as they are in lower case, so that the first letter
of a text in lower case is such a letter exactly if the first letter of the text is
(`eq_of_head?_lower`, `head?_lower_of_hasMarkedCapital`).
-/
namespace CommitStandard.Text

section Ascii

variable {c : Char}

/-- What holds of the first 128 code points holds of every character of ASCII. -/
theorem forall_ascii {p : Char → Prop} (h : ∀ n < 128, p (Char.ofNat n)) (hc : c.toNat < 128) :
    p c := by
  have hcode := h c.toNat hc
  rwa [Char.ofNat_toNat] at hcode

/-- What is made of the characters of a class in ASCII can be looked up. -/
theorem all_of_ascii {f : Char → Text} {p q : Char → Bool}
    (h : ∀ n < 128, p (Char.ofNat n) = true → (f (Char.ofNat n)).all q = true)
    (hc : c.toNat < 128) (hp : p c = true) : ∀ d ∈ f c, q d = true :=
  List.all_eq_true.mp (forall_ascii (p := fun c => p c = true → (f c).all q = true) h hc hp)

end Ascii

section Ranges

/-- The ranges of the word characters, those of ASCII included. -/
def wordRanges : List (Nat × Nat) :=
  [(0x30, 0x39), (0x41, 0x5a), (0x5f, 0x5f), (0x61, 0x7a)] ++ Table.word

/-- Whether the numbers between two others lie in the ranges. -/
def covers (first last : Nat) : List (Nat × Nat) → Bool
  | [] => false
  | range :: ranges => range.1.ble first && (last.ble range.2 || covers first last ranges)

variable {n first last : Nat} {ranges : List (Nat × Nat)}

theorem inRanges_of_covers (h : covers first last ranges = true) (hfirst : first ≤ n)
    (hlast : n ≤ last) : inRanges n ranges = true := by
  induction ranges with
  | nil => simp [covers] at h
  | cons range ranges ih =>
    simp only [covers, inRanges, Bool.and_eq_true, Bool.or_eq_true, decide_eq_true_eq,
      Nat.ble_eq] at h ⊢
    exact ⟨h.1.trans hfirst, h.2.imp hlast.trans ih⟩

theorem covers_self (n : Nat) (ranges : List (Nat × Nat)) :
    covers n n ranges = inRanges n ranges := by
  induction ranges with
  | nil => rfl
  | cons range ranges ih =>
    rw [covers, inRanges, ih, Bool.eq_iff_iff]
    simp

theorem exists_range_of_inRanges (h : inRanges n ranges = true) :
    ∃ range ∈ ranges, range.1 ≤ n ∧ n ≤ range.2 := by
  induction ranges with
  | nil => simp [inRanges] at h
  | cons range ranges ih =>
    simp only [inRanges, Bool.and_eq_true, Bool.or_eq_true, decide_eq_true_eq] at h
    rcases h.2 with hlast | h'
    · exact ⟨range, List.mem_cons_self, h.1, hlast⟩
    · obtain ⟨r, hr, hn⟩ := ih h'
      exact ⟨r, List.mem_cons_of_mem range hr, hn⟩

theorem isWord_eq_inRanges (c : Char) : isWord c = inRanges c.toNat wordRanges := by
  by_cases hc : c.toNat < 128
  · have hascii : ∀ n < 128, isWord (Char.ofNat n) = inRanges n wordRanges := by decide
    simpa using hascii c.toNat hc
  · have hbeyond : inRanges c.toNat wordRanges = inRanges c.toNat Table.word := by
      simp only [wordRanges, List.cons_append, List.nil_append, inRanges]
      simp (disch := omega) only [decide_eq_true, decide_eq_false, Bool.true_and, Bool.false_or]
    rw [isWord, if_neg hc, hbeyond]

theorem isWord_ofNat (h : inRanges n wordRanges = true) : isWord (Char.ofNat n) = true := by
  have hvalid : ∀ range ∈ wordRanges,
      range.2 < 0xd800 ∨ 0xdfff < range.1 ∧ range.2 < 0x110000 := by decide +kernel
  obtain ⟨range, hrange, hfirst, hlast⟩ := exists_range_of_inRanges h
  have hn : n.isValidChar := (hvalid range hrange).imp hlast.trans_lt fun hr =>
    ⟨hr.1.trans_le hfirst, hlast.trans_lt hr.2⟩
  rw [isWord_eq_inRanges, Char.ofNat, dif_pos hn]
  exact h

end Ranges

section Tables

/-- The code points that a row of a table of shifts moves. -/
def movedCodes (row : Nat × Nat × Nat × Int) : List Nat :=
  (List.range ((row.2.1 - row.1) / row.2.2.1 + 1)).map fun k => row.1 + k * row.2.2.1

theorem mem_movedCodes {n : Nat} {row : Nat × Nat × Nat × Int} (hfirst : row.1 ≤ n)
    (hlast : n ≤ row.2.1) (hstep : (n - row.1) % row.2.2.1 = 0) : n ∈ movedCodes row := by
  refine List.mem_map.mpr ⟨(n - row.1) / row.2.2.1, List.mem_range.mpr ?_, ?_⟩
  · exact Nat.lt_succ_of_le (Nat.div_le_div_right (by omega))
  · rw [Nat.div_mul_cancel (Nat.dvd_of_mod_eq_zero hstep)]
    omega

/-- Whether tables map word characters to word characters, but for some code points. A row is
looked at as a whole, and code point by code point only if that is not enough. -/
def keepsWords (others : List Nat) (expansions : List (Nat × List Nat))
    (rows : List (Nat × Nat × Nat × Int)) : Bool :=
  (expansions.all fun e => others.contains e.1 || e.2.all fun n => inRanges n wordRanges) &&
    rows.all fun row =>
      covers (row.1 + row.2.2.2).toNat (row.2.1 + row.2.2.2).toNat wordRanges ||
        (movedCodes row).all fun n =>
          covers (n + row.2.2.2).toNat (n + row.2.2.2).toNat wordRanges || !covers n n wordRanges

theorem isWord_of_mem_mapped {others : List Nat} {expansions : List (Nat × List Nat)}
    {rows : List (Nat × Nat × Nat × Int)} {c d : Char}
    (ht : keepsWords others expansions rows = true) (hc : isWord c = true)
    (hother : c.toNat ∉ others) (hd : d ∈ mapped expansions rows c) : isWord d = true := by
  simp only [keepsWords, Bool.and_eq_true, List.all_eq_true, Bool.or_eq_true,
    List.contains_iff_mem] at ht
  rcases cases_of_mem_mapped hd with
    rfl | ⟨e, he, hcode, n, hn, rfl⟩ | ⟨row, hrow, hfirst, hlast, hstep, rfl⟩
  · exact hc
  · rcases ht.1 e he with hmem | hword
    · exact absurd (hcode ▸ hmem) hother
    · exact isWord_ofNat (hword n hn)
  · refine isWord_ofNat ?_
    rcases ht.2 row hrow with hcovers | hmoved
    · exact inRanges_of_covers hcovers (by omega) (by omega)
    · rcases hmoved c.toNat (mem_movedCodes hfirst hlast hstep) with hword | hno
      · rwa [covers_self] at hword
      · rw [isWord_eq_inRanges] at hc
        rw [covers_self, hc] at hno
        exact absurd hno (by decide)

/-- The code points of letters with a marked capital form. -/
def markedCodes : List Nat :=
  [0x1f0, 0x390, 0x3b0, 0x1e96, 0x1e97, 0x1e98, 0x1e99, 0x1f50, 0x1f52, 0x1f54, 0x1f56, 0x1fb6,
   0x1fb7, 0x1fc6, 0x1fc7, 0x1fd2, 0x1fd3, 0x1fd6, 0x1fd7, 0x1fe2, 0x1fe3, 0x1fe4, 0x1fe6,
   0x1fe7, 0x1ff6, 0x1ff7]

theorem keepsWords_lower :
    keepsWords ['İ'.toNat] Table.lowerExpansion Table.lowerShift = true := by
  decide +kernel

theorem keepsWords_upper :
    keepsWords markedCodes Table.upperExpansion Table.upperShift = true := by
  decide +kernel

end Tables

section Casing

variable {c d : Char} {s : Text}

theorem isWord_of_mem_asciiCasing (hascii : c.toNat < 128) (hc : isWord c = true)
    (hd : d ∈ lowerChar c ++ upperChar c) : isWord d = true :=
  all_of_ascii (f := fun c => lowerChar c ++ upperChar c) (by decide) hascii hc d hd

/-- Lower case leaves the word characters only at the capital I with a dot. -/
theorem isWord_of_mem_lowerChar (hc : isWord c = true) (hdot : c ≠ 'İ') (hd : d ∈ lowerChar c) :
    isWord d = true := by
  by_cases hascii : c.toNat < 128
  · exact isWord_of_mem_asciiCasing hascii hc (List.mem_append_left _ hd)
  · rw [lowerChar, if_neg hascii] at hd
    refine isWord_of_mem_mapped keepsWords_lower hc ?_ hd
    rw [List.mem_singleton]
    intro hcode
    refine hdot ?_
    rw [← Char.ofNat_toNat c, hcode, Char.ofNat_toNat]

/-- Letters whose capital form is not of word characters alone. -/
def hasMarkedCapital (c : Char) : Bool := isWord c && !(upperChar c).all isWord

theorem isWord_of_mem_upperChar (hc : isWord c = true) (hcapital : hasMarkedCapital c = false)
    (hd : d ∈ upperChar c) : isWord d = true := by
  rw [hasMarkedCapital, hc, Bool.true_and, Bool.not_eq_false', List.all_eq_true] at hcapital
  exact hcapital d hd

theorem toNat_mem_markedCodes (h : hasMarkedCapital c = true) : c.toNat ∈ markedCodes := by
  simp only [hasMarkedCapital, Bool.and_eq_true, Bool.not_eq_true', List.all_eq_false] at h
  obtain ⟨hc, d, hd, hmark⟩ := h
  by_contra hcode
  refine hmark ?_
  by_cases hascii : c.toNat < 128
  · exact isWord_of_mem_asciiCasing hascii hc (List.mem_append_right _ hd)
  · rw [upperChar, if_neg hascii] at hd
    exact isWord_of_mem_mapped keepsWords_upper hc hcode hd

theorem isCaseless_hasMarkedCapital : IsCaseless hasMarkedCapital markedCodes :=
  ⟨fun _ => toNat_mem_markedCodes, by decide +kernel, by decide +kernel, by decide +kernel⟩

theorem lowerChar_of_hasMarkedCapital (h : hasMarkedCapital c = true) : lowerChar c = [c] := by
  have htable : ∀ n ∈ markedCodes, lowerChar (Char.ofNat n) = [Char.ofNat n] := by
    decide
  have hcode := htable c.toNat (toNat_mem_markedCodes h)
  rwa [Char.ofNat_toNat] at hcode

/-- What a character of a text in lower case was: another form of the sigma, or a character that
is lowered on its own. -/
theorem exists_of_mem_lower (h : d ∈ lower s) :
    d = 'σ' ∨ d = 'ς' ∨ ∃ c ∈ s, d ∈ lowerChar c := by
  have hafter : ∀ afterCased : Bool, d ∈ lowerAfter afterCased s →
      d = 'σ' ∨ d = 'ς' ∨ ∃ c ∈ s, d ∈ lowerChar c := by
    clear h
    induction s with
    | nil => simp [lowerAfter]
    | cons c s ih =>
      intro afterCased hd
      rw [lowerAfter] at hd
      rcases List.mem_append.mp hd with hd | hd
      · split at hd
        · split at hd <;> simp_all
        · exact Or.inr (Or.inr ⟨c, List.mem_cons_self, hd⟩)
      · refine (ih _ hd).imp_right (Or.imp_right ?_)
        rintro ⟨c', hc', hd⟩
        exact ⟨c', List.mem_cons_of_mem c hc', hd⟩
  exact hafter false h

/-- Everything that a character but the sigma is lowered to is in the text in lower case. -/
theorem mem_lower_of_mem (hc : c ∈ s) (hsigma : c ≠ 'Σ') (hd : d ∈ lowerChar c) : d ∈ lower s := by
  have hafter : ∀ afterCased : Bool, d ∈ lowerAfter afterCased s := by
    induction s with
    | nil => simp at hc
    | cons c' s ih =>
      intro afterCased
      rw [lowerAfter, List.mem_append]
      rcases List.mem_cons.mp hc with rfl | hc
      · rw [if_neg hsigma]
        exact Or.inl hd
      · exact Or.inr (ih hc _)
  exact hafter false

theorem eq_of_head?_lower (hd : (lower (c :: s)).head? = some d)
    (hcapital : hasMarkedCapital d = true) : d = c := by
  rw [lower, lowerAfter] at hd
  split at hd
  · obtain rfl := Option.some.inj hd
    split at hcapital <;> exact absurd hcapital (by decide)
  · rw [List.head?_append_of_ne_nil _ (lowerChar_ne_nil c)] at hd
    exact isCaseless_hasMarkedCapital.eq_of_mem_lowerChar (List.mem_of_mem_head? hd) hcapital

theorem head?_lower_of_hasMarkedCapital (h : hasMarkedCapital c = true) :
    (lower (c :: s)).head? = some c := by
  rw [lower, lowerAfter, if_neg, lowerChar_of_hasMarkedCapital h]
  · rfl
  · rintro rfl
    exact absurd h (by decide)

end Casing

end CommitStandard.Text
