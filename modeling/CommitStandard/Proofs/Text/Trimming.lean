import Mathlib.Data.List.DropRight
import Mathlib.Tactic
import CommitStandard.Text.Character

/-!
# Trimmed texts

A text is trimmed when neither its first nor its last character is of the class
that is cut off. Trimming produces a trimmed infix, and leaves exactly the
trimmed texts alone. The lemmas are stated for lists (`trimEnds`), because lines
are cut off a message in the same way as blanks are cut off a line. Written lines
often end in a space and a text that may be empty; `strip_append_space` says what
trimming leaves of such a line.
-/
namespace CommitStandard.Text

section Ends

variable {α : Type*} {p : α → Bool} {l : List α} {x : α}

/-- A list without the longest runs of such elements at both ends. -/
def trimEnds (p : α → Bool) (l : List α) : List α := (l.dropWhile p).rdropWhile p

theorem isInfix_trimEnds (p : α → Bool) (l : List α) : trimEnds p l <:+: l := by
  have hend : trimEnds p l <+: l.dropWhile p := List.rdropWhile_prefix p _
  have hstart : l.dropWhile p <:+ l := List.dropWhile_suffix p
  exact hend.isInfix.trans hstart.isInfix

/-- The first element that is left is not of the class. -/
theorem head?_trimEnds (h : (trimEnds p l).head? = some x) : p x = false := by
  have hpre : trimEnds p l <+: l.dropWhile p := List.rdropWhile_prefix p _
  have hhead : (l.dropWhile p).head? = some x := by
    obtain ⟨t, ht⟩ := hpre
    rw [← ht, List.head?_append, h]
    rfl
  have hnot := List.head?_dropWhile_not p l
  rw [hhead] at hnot
  simpa using hnot

theorem getLast?_rdropWhile (h : (l.rdropWhile p).getLast? = some x) : p x = false := by
  have hne : l.rdropWhile p ≠ [] := by
    intro h0
    rw [h0] at h
    simp at h
  have hlast := List.rdropWhile_last_not p l hne
  rw [List.getLast?_eq_some_getLast hne, Option.some.injEq] at h
  rw [h] at hlast
  simpa using hlast

/-- The last element that is left is not of the class. -/
theorem getLast?_trimEnds (h : (trimEnds p l).getLast? = some x) : p x = false :=
  getLast?_rdropWhile h

theorem dropWhile_eq_self (h : ∀ x, l.head? = some x → p x = false) : l.dropWhile p = l := by
  cases l with
  | nil => rfl
  | cons x l => simp [h x rfl]

theorem trimEnds_eq_self (hhead : ∀ x, l.head? = some x → p x = false)
    (hlast : ∀ x, l.getLast? = some x → p x = false) : trimEnds p l = l := by
  rw [trimEnds, dropWhile_eq_self hhead, List.rdropWhile_eq_self_iff]
  intro hne
  simpa using hlast _ (List.getLast?_eq_some_getLast hne)

/-- Trimming leaves exactly the trimmed lists alone. -/
theorem trimEnds_eq_self_iff :
    trimEnds p l = l ↔
      (∀ x, l.head? = some x → p x = false) ∧ ∀ x, l.getLast? = some x → p x = false := by
  constructor
  · intro h
    exact ⟨fun x hx => head?_trimEnds (by rw [h]; exact hx),
      fun x hx => getLast?_trimEnds (by rw [h]; exact hx)⟩
  · rintro ⟨hhead, hlast⟩
    exact trimEnds_eq_self hhead hlast

/-- Trimming leaves out only elements of the class. -/
theorem filter_trimEnds (p : α → Bool) (l : List α) :
    (trimEnds p l).filter (fun x => !p x) = l.filter fun x => !p x := by
  have hend : ∀ k : List α, (k.rdropWhile p).filter (fun x => !p x) = k.filter fun x => !p x := by
    intro k
    induction k using List.reverseRecOn with
    | nil => rfl
    | append_singleton k x ih =>
      by_cases hx : p x = true
      · rw [List.rdropWhile_concat_pos _ _ _ hx, ih]
        simp [hx]
      · rw [List.rdropWhile_concat_neg _ _ _ hx]
  rw [trimEnds, hend]
  induction l with
  | nil => rfl
  | cons x l ih =>
    by_cases hx : p x = true
    · rw [List.dropWhile_cons_of_pos hx, ih]
      simp [hx]
    · rw [List.dropWhile_cons_of_neg hx]

/-- What is cut off the end anyway may be missing. -/
theorem trimEnds_rdropWhile (p : α → Bool) (l : List α) :
    trimEnds p (l.rdropWhile p) = trimEnds p l := by
  induction l using List.reverseRecOn with
  | nil => rfl
  | append_singleton l x ih =>
    by_cases hx : p x = true
    · rw [List.rdropWhile_concat_pos _ _ _ hx, ih, trimEnds, trimEnds, List.dropWhile_append]
      split
      · rename_i hall
        rw [List.isEmpty_iff.mp hall, List.dropWhile_cons_of_pos hx]
        rfl
      · rw [List.rdropWhile_concat_pos _ _ _ hx]
    · rw [List.rdropWhile_concat_neg _ _ _ hx]

theorem rdropWhile_append_of_last {l : List α} (h : ∀ x, l.getLast? = some x → p x = false)
    (k : List α) : (l ++ k).rdropWhile p = l ++ k.rdropWhile p := by
  induction k using List.reverseRecOn with
  | nil =>
    rw [List.append_nil, List.rdropWhile_nil, List.append_nil, List.rdropWhile_eq_self_iff]
    intro hne
    simpa using h _ (List.getLast?_eq_some_getLast hne)
  | append_singleton k y ih =>
    rw [← List.append_assoc]
    by_cases hy : p y = true
    · rw [List.rdropWhile_concat_pos _ _ _ hy, List.rdropWhile_concat_pos _ _ _ hy, ih]
    · rw [List.rdropWhile_concat_neg _ _ _ hy, List.rdropWhile_concat_neg _ _ _ hy,
        List.append_assoc]

theorem rdropWhile_cons {x : α} (hx : p x = false) (l : List α) :
    (x :: l).rdropWhile p = x :: l.rdropWhile p :=
  rdropWhile_append_of_last (l := [x]) (by simpa using hx) l

theorem rdropWhile_append_of_ne_nil (l : List α) {k : List α}
    (h : k.rdropWhile p ≠ []) : (l ++ k).rdropWhile p = l ++ k.rdropWhile p := by
  have hne : (k.reverse.dropWhile p).isEmpty = false := by
    rw [List.isEmpty_eq_false_iff]
    intro h0
    exact h (by rw [List.rdropWhile, h0]; rfl)
  simp [List.rdropWhile, List.dropWhile_append, hne]

end Ends

theorem trim_eq_trimEnds (p : Char → Bool) (s : Text) : trim p s = trimEnds p s := rfl

theorem strip_eq_trimEnds (s : Text) : strip s = trimEnds isBlank s := rfl

theorem strip_concat {c : Char} (hc : isBlank c = true) (s : Text) :
    strip (s ++ [c]) = strip s := by
  rw [strip_eq_trimEnds, strip_eq_trimEnds, ← trimEnds_rdropWhile,
    List.rdropWhile_concat_pos _ _ _ hc, trimEnds_rdropWhile]

theorem mem_of_mem_strip {c : Char} {s : Text} (h : c ∈ strip s) : c ∈ s :=
  (isInfix_trimEnds isBlank s).subset h

theorem length_strip_le (s : Text) : (strip s).length ≤ s.length :=
  (isInfix_trimEnds isBlank s).length_le

theorem strip_eq_self {s : Text} (hhead : ∀ c, s.head? = some c → isBlank c = false)
    (hlast : ∀ c, s.getLast? = some c → isBlank c = false) : strip s = s :=
  trimEnds_eq_self hhead hlast

/-- A text without blank characters is trimmed. -/
theorem strip_eq_self_of_forall {s : Text} (h : ∀ c ∈ s, isBlank c = false) : strip s = s :=
  strip_eq_self (fun c hc => h c (List.mem_of_head? hc)) fun c hc => h c (List.mem_of_getLast? hc)

/-- The first character of a trimmed text is not blank. -/
theorem head?_of_strip {s : Text} (hs : strip s = s) {c : Char} (hc : s.head? = some c) :
    isBlank c = false :=
  (trimEnds_eq_self_iff.mp hs).1 c hc

/-- The last character of a trimmed text is not blank. -/
theorem getLast?_of_strip {s : Text} (hs : strip s = s) {c : Char} (hc : s.getLast? = some c) :
    isBlank c = false :=
  (trimEnds_eq_self_iff.mp hs).2 c hc

@[simp] theorem strip_strip (s : Text) : strip (strip s) = strip s :=
  strip_eq_self (fun _ => head?_trimEnds) fun _ => getLast?_trimEnds

theorem strip_eq_nil_iff {s : Text} : strip s = [] ↔ isBlankText s = true := by
  rw [strip_eq_trimEnds, trimEnds, List.rdropWhile_eq_nil_iff, isBlankText,
    List.all_eq_true]
  constructor
  · intro h c hc
    by_contra hblank
    have hne : s.dropWhile isBlank ≠ [] := by
      intro h0
      rw [List.dropWhile_eq_nil_iff] at h0
      exact hblank (h0 c hc)
    have hhead := List.head_dropWhile_not isBlank hne
    simp [h _ (List.head_mem hne)] at hhead
  · intro h c hc
    exact h c ((List.dropWhile_sublist isBlank).subset hc)

/-- A trimmed text that is not empty has a character other than blanks. -/
theorem isBlankText_eq_false {s : Text} (hs : strip s = s) (hne : s ≠ []) :
    isBlankText s = false := by
  rw [← Bool.not_eq_true, ← strip_eq_nil_iff, hs]
  exact hne

/-- A space and the text, or nothing for the empty text. -/
def spaceBefore (s : Text) : Text := if s.isEmpty then [] else ' ' :: s

@[simp] theorem spaceBefore_nil : spaceBefore [] = [] := rfl

@[simp] theorem spaceBefore_cons (c : Char) (s : Text) : spaceBefore (c :: s) = ' ' :: c :: s :=
  rfl

theorem mem_spaceBefore {c : Char} {s : Text} (h : c ∈ spaceBefore s) : c = ' ' ∨ c ∈ s := by
  cases s with
  | nil => simp at h
  | cons d s => simpa using h

/-- Trimming a line that ends in a space and a text that does not begin with a blank. -/
theorem strip_append_space {a s : Text} (hne : a ≠ [])
    (hhead : ∀ c, a.head? = some c → isBlank c = false)
    (hlast : ∀ c, a.getLast? = some c → isBlank c = false)
    (hs : ∀ c, s.head? = some c → isBlank c = false) :
    strip (a ++ ' ' :: s) = a ++ spaceBefore (strip s) := by
  have hdrop : (a ++ ' ' :: s).dropWhile isBlank = a ++ ' ' :: s := by
    apply dropWhile_eq_self
    intro c hc
    obtain ⟨d, a, rfl⟩ := List.exists_cons_of_ne_nil hne
    exact hhead c (by simpa using hc)
  rw [strip_eq_trimEnds, trimEnds, hdrop]
  cases s with
  | nil =>
    have ha : a.rdropWhile isBlank = a := by
      rw [List.rdropWhile_eq_self_iff]
      intro h
      simpa using hlast _ (List.getLast?_eq_some_getLast h)
    rw [List.rdropWhile_concat_pos _ _ _ (by decide), ha]
    simp
  | cons c s =>
    have hc : isBlank c = false := hs c rfl
    have hstrip : strip (c :: s) = (c :: s).rdropWhile isBlank := by
      rw [strip_eq_trimEnds, trimEnds, dropWhile_eq_self hs]
    have hrest : (c :: s).rdropWhile isBlank ≠ [] := by
      intro h0
      rw [List.rdropWhile_eq_nil_iff] at h0
      simp [h0 c (by simp)] at hc
    rw [List.append_cons a ' ' (c :: s), rdropWhile_append_of_ne_nil _ hrest, hstrip]
    obtain ⟨d, t, hd⟩ := List.exists_cons_of_ne_nil hrest
    rw [hd]
    simp

end CommitStandard.Text
