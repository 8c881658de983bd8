import Mathlib.Tactic
import CommitStandard.Proofs.Text.Letters

/-!
# Casing twice

Neither table of casing maps a character to one that it maps on (`settles_tables`), so that the
characters of a text in lower case stay as they are in lower case, and those of a text in upper
case in upper case. Writing a text in one of these cases once more therefore changes nothing
(`lower_lower`, `upper_upper`).
-/
namespace CommitStandard.Text

section Tables

variable {n : Nat} {expansions : List (Nat × List Nat)}
  {rows : List (Nat × Nat × Nat × Int)} {c d : Char}

/-- The number with ones at the listed binary places. -/
def bits : List Nat → Nat
  | [] => 0
  | n :: ns => 2 ^ n ||| bits ns

theorem testBit_bits (ns : List Nat) (n : Nat) : (bits ns).testBit n = decide (n ∈ ns) := by
  induction ns with
  | nil => simp [bits]
  | cons m ns ih =>
    rw [bits, Nat.testBit_or, Nat.testBit_two_pow, ih, ← Bool.decide_or, decide_eq_decide,
      List.mem_cons, eq_comm]

/-- The code points that tables map to others. -/
def mappedCodes (expansions : List (Nat × List Nat)) (rows : List (Nat × Nat × Nat × Int)) :
    List Nat :=
  expansions.map Prod.fst ++ rows.flatMap movedCodes

/-- The code points that tables map to, and zero, which stands for invalid ones. -/
def imageCodes (expansions : List (Nat × List Nat)) (rows : List (Nat × Nat × Nat × Int)) :
    List Nat :=
  0 :: (expansions.flatMap Prod.snd ++
    rows.flatMap fun row => (movedCodes row).map fun n : Nat => (n + row.2.2.2).toNat)

/-- Whether tables leave alone what they map to. -/
def settles (expansions : List (Nat × List Nat)) (rows : List (Nat × Nat × Nat × Int)) : Bool :=
  bits (imageCodes expansions rows) &&& bits (mappedCodes expansions rows) == 0

theorem notMem_mappedCodes (h : settles expansions rows = true)
    (hn : n ∈ imageCodes expansions rows) : n ∉ mappedCodes expansions rows := by
  intro hmapped
  have hbit := congrArg (Nat.testBit · n) (beq_iff_eq.mp h)
  simp [Nat.testBit_and, testBit_bits, hn, hmapped] at hbit

/-- The shifts to lower case, those of ASCII included. -/
def lowerRows : List (Nat × Nat × Nat × Int) := (0x41, 0x5a, 1, 32) :: Table.lowerShift

/-- The shifts to upper case, those of ASCII included. -/
def upperRows : List (Nat × Nat × Nat × Int) := (0x61, 0x7a, 1, -32) :: Table.upperShift

theorem settles_tables : settles Table.lowerExpansion lowerRows = true ∧
    settles Table.upperExpansion upperRows = true := by
  decide +kernel

/-- No table maps a code point of ASCII. -/
theorem le_of_mem_mappedCodes :
    (∀ n ∈ mappedCodes Table.lowerExpansion Table.lowerShift, 128 ≤ n) ∧
      ∀ n ∈ mappedCodes Table.upperExpansion Table.upperShift, 128 ≤ n := by
  decide +kernel

theorem eq_none_of_notMem (h : n ∉ mappedCodes expansions rows) :
    expansions.lookup n = none ∧ shifted? n rows = none := by
  rw [mappedCodes, List.mem_append, not_or] at h
  constructor
  · rw [List.lookup_eq_none_iff]
    intro e he
    rw [bne_iff_ne]
    rintro rfl
    exact h.1 (List.mem_map_of_mem he)
  · rw [Option.eq_none_iff_forall_ne_some]
    intro m hm
    obtain ⟨row, hrow, hfirst, hlast, hstep, -⟩ := exists_of_shifted? hm
    exact h.2 (List.mem_flatMap.mpr ⟨row, hrow, mem_movedCodes hfirst hlast hstep⟩)

theorem mapped_of_notMem (h : c.toNat ∉ mappedCodes expansions rows) :
    mapped expansions rows c = [c] := by
  obtain ⟨hlookup, hshift⟩ := eq_none_of_notMem h
  simp only [mapped, hlookup, hshift]

/-- What tables map to stays as it is. -/
theorem mapped_of_mem_mapped (ht : settles expansions rows = true)
    (hd : d ∈ mapped expansions rows c) : mapped expansions rows d = [d] := by
  have himage : ∀ n ∈ imageCodes expansions rows,
      mapped expansions rows (Char.ofNat n) = [Char.ofNat n] := by
    intro n hn
    refine mapped_of_notMem ?_
    by_cases hvalid : n.isValidChar
    · rw [Char.ofNat, dif_pos hvalid]
      exact notMem_mappedCodes ht hn
    · rw [Char.ofNat, dif_neg hvalid]
      exact notMem_mappedCodes ht List.mem_cons_self
  cases hlookup : expansions.lookup c.toNat with
  | some ns =>
    simp only [mapped, hlookup] at hd
    obtain ⟨n, hn, rfl⟩ := List.mem_map.mp hd
    obtain ⟨before, after, he, -⟩ := List.lookup_eq_some_iff.mp hlookup
    have hmem : (c.toNat, ns) ∈ expansions := by rw [he]; simp
    exact himage n (List.mem_cons_of_mem 0
      (List.mem_append_left _ (List.mem_flatMap.mpr ⟨_, hmem, hn⟩)))
  | none =>
    cases hshift : shifted? c.toNat rows with
    | some n =>
      simp only [mapped, hlookup, hshift] at hd
      obtain ⟨row, hrow, hfirst, hlast, hstep, rfl⟩ := exists_of_shifted? hshift
      rw [List.mem_singleton.mp hd]
      exact himage _ (List.mem_cons_of_mem 0 (List.mem_append_right _ (List.mem_flatMap.mpr
        ⟨row, hrow, List.mem_map_of_mem (mem_movedCodes hfirst hlast hstep)⟩)))
    | none =>
      have hc : mapped expansions rows c = [c] := by simp only [mapped, hlookup, hshift]
      rw [hc] at hd
      rw [List.mem_singleton.mp hd, hc]

end Tables

section Twice

variable {c d : Char} {s : Text}

/-- Only the row of ASCII counts for characters of ASCII, and only the tables for others. -/
theorem mapped_cons {expansions : List (Nat × List Nat)} {rows : List (Nat × Nat × Nat × Int)}
    {row : Nat × Nat × Nat × Int} (h : ∀ n ∈ mappedCodes expansions rows, 128 ≤ n)
    (hrow : row.2.1 < 128) (c : Char) :
    mapped expansions (row :: rows) c =
      if c.toNat < 128 then mapped [] [row] c else mapped expansions rows c := by
  split
  · rename_i hascii
    obtain ⟨hlookup, hshift⟩ := eq_none_of_notMem fun hc => absurd (h c.toNat hc) (by omega)
    simp only [mapped, hlookup, List.lookup_nil, shifted?, hshift]
  · rename_i hascii
    obtain ⟨first, last, step, offset⟩ := row
    have hlast : ¬c.toNat ≤ last := fun hle => hascii (hle.trans_lt hrow)
    simp [mapped, shifted?, hlast]

theorem mapped_row (first last : Nat) (offset : Int) (c : Char) :
    mapped [] [(first, last, 1, offset)] c =
      [if first ≤ c.toNat ∧ c.toNat ≤ last then Char.ofNat (c.toNat + offset).toNat else c] := by
  by_cases hc : first ≤ c.toNat ∧ c.toNat ≤ last <;> simp [mapped, shifted?, Nat.mod_one, hc]

theorem asciiUpper_iff : asciiUpper c = true ↔ 0x41 ≤ c.toNat ∧ c.toNat ≤ 0x5a := by
  rw [asciiUpper, Bool.and_eq_true, decide_eq_true_iff, decide_eq_true_iff]
  rfl

theorem asciiLower_iff : asciiLower c = true ↔ 0x61 ≤ c.toNat ∧ c.toNat ≤ 0x7a := by
  rw [asciiLower, Bool.and_eq_true, decide_eq_true_iff, decide_eq_true_iff]
  rfl

theorem asciiDigit_iff : asciiDigit c = true ↔ 0x30 ≤ c.toNat ∧ c.toNat ≤ 0x39 := by
  rw [asciiDigit, Bool.and_eq_true, decide_eq_true_iff, decide_eq_true_iff]
  rfl

theorem lowerChar_eq_mapped (c : Char) :
    lowerChar c = mapped Table.lowerExpansion lowerRows c := by
  rw [lowerRows, mapped_cons le_of_mem_mappedCodes.1 (by decide), mapped_row, lowerChar]
  simp only [asciiUpper_iff]
  rfl

theorem upperChar_eq_mapped (c : Char) :
    upperChar c = mapped Table.upperExpansion upperRows c := by
  have hoffset : ((c.toNat : Int) + -32).toNat = c.toNat - 32 := by omega
  rw [upperRows, mapped_cons le_of_mem_mappedCodes.2 (by decide), mapped_row, upperChar, hoffset]
  simp only [asciiLower_iff]

theorem lowerChar_of_mem_lowerChar (hd : d ∈ lowerChar c) : lowerChar d = [d] := by
  rw [lowerChar_eq_mapped] at hd ⊢
  exact mapped_of_mem_mapped settles_tables.1 hd

theorem upperChar_of_mem_upperChar (hd : d ∈ upperChar c) : upperChar d = [d] := by
  rw [upperChar_eq_mapped] at hd ⊢
  exact mapped_of_mem_mapped settles_tables.2 hd

/-- Without a capital sigma every character is lowered on its own. -/
theorem lower_eq_flatMap (h : 'Σ' ∉ s) : lower s = s.flatMap lowerChar := by
  have hafter : ∀ afterCased, lowerAfter afterCased s = s.flatMap lowerChar := by
    induction s with
    | nil => exact fun _ => rfl
    | cons c s ih =>
      rw [List.mem_cons, not_or] at h
      intro afterCased
      rw [lowerAfter, if_neg (Ne.symm h.1), ih h.2, List.flatMap_cons]
  exact hafter false

theorem lower_eq_self (h : ∀ c ∈ s, lowerChar c = [c]) : lower s = s := by
  have hsigma : 'Σ' ∉ s := fun hmem => absurd (h _ hmem) (by decide)
  calc lower s = s.flatMap lowerChar := lower_eq_flatMap hsigma
    _ = s.flatMap fun d => [d] := List.flatMap_congr h
    _ = s := List.flatMap_singleton' _

theorem lowerChar_of_mem_lower (hd : d ∈ lower s) : lowerChar d = [d] := by
  rcases exists_of_mem_lower hd with rfl | rfl | ⟨c, -, hd⟩
  · decide
  · decide
  · exact lowerChar_of_mem_lowerChar hd

theorem lower_lower (s : Text) : lower (lower s) = lower s :=
  lower_eq_self fun _ hd => lowerChar_of_mem_lower hd

theorem upper_upper (s : Text) : upper (upper s) = upper s := by
  have hself : ∀ d ∈ upper s, upperChar d = [d] := by
    intro d hd
    obtain ⟨c, -, hd⟩ := List.mem_flatMap.mp hd
    exact upperChar_of_mem_upperChar hd
  calc upper (upper s) = (upper s).flatMap upperChar := rfl
    _ = (upper s).flatMap fun d => [d] := List.flatMap_congr hself
    _ = upper s := List.flatMap_singleton' _

/-- A capital beginning is its own upper case. -/
theorem upperChar_of_head?_capitalize (hd : (capitalize s).head? = some d) :
    upperChar d = [d] := by
  cases s with
  | nil => simp [capitalize] at hd
  | cons c s =>
    rw [capitalize, List.head?_append_of_ne_nil _ (upperChar_ne_nil c)] at hd
    exact upperChar_of_mem_upperChar (List.mem_of_mem_head? hd)

end Twice

end CommitStandard.Text
