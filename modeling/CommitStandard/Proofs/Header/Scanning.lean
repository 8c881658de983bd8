import Mathlib.Tactic
import CommitStandard.Proofs.Text.Characters
import CommitStandard.Proofs.Text.Trimming
import CommitStandard.Header

/-!
# Scanning the line of a header

What stands in brackets at the start of a line is taken as the namespace
(`takeBracketed?_eq_some_iff`), and what comes next as a label if it is one up to a
colon (`takeToColon?_eq_some_iff`). Both are known from the text that is taken alone,
whatever follows it.
-/
namespace CommitStandard.Header

section Scanning

variable {c : Char} {s a b : Text}

theorem cutAtChar?_append (h : c ∉ a) (b : Text) : cutAtChar? c (a ++ c :: b) = some (a, b) := by
  have hpos : ∀ d ∈ a, decide (d ≠ c) = true := by
    intro d hd
    exact decide_eq_true fun he => h (he ▸ hd)
  rw [cutAtChar?, List.dropWhile_append_of_pos hpos, List.takeWhile_append_of_pos hpos]
  simp

theorem eq_of_cutAtChar? (h : cutAtChar? c s = some (a, b)) : s = a ++ c :: b ∧ c ∉ a := by
  unfold cutAtChar? at h
  split at h
  · simp at h
  · rename_i d rest hd
    simp only [Option.some.injEq, Prod.mk.injEq] at h
    obtain ⟨rfl, rfl⟩ := h
    have hc : d = c := by
      have := List.head?_dropWhile_not (fun x => decide (x ≠ c)) s
      rw [hd] at this
      simpa using this
    subst hc
    refine ⟨?_, ?_⟩
    · rw [← hd, List.takeWhile_append_dropWhile]
    · intro hmem
      simpa using List.mem_takeWhile_imp hmem

@[simp] theorem dropSpace_spaceBefore (s : Text) : dropSpace (Text.spaceBefore s) = s := by
  cases s <;> rfl

theorem dropSpace_suffix (s : Text) : dropSpace s <:+ s := by
  unfold dropSpace
  split
  · exact List.suffix_cons _ _
  · exact List.suffix_refl _

/-- Takes what stands in brackets from the start of a text. -/
def takeBracketed? : Text → Option (Text × Text)
  | '[' :: rest => cutAtChar? ']' rest
  | _ => none

theorem takeNameSpace_eq (s : Text) :
    takeNameSpace s =
      ((takeBracketed? s).map fun found => (found.1, dropSpace found.2)).getD ([], s) := by
  unfold takeNameSpace takeBracketed?
  split
  · split <;> simp [*]
  · simp [*]

/-- What stands up to the first closing bracket is taken. -/
theorem takeBracketed?_eq_some_iff :
    takeBracketed? s = some (a, b) ↔ ']' ∉ a ∧ s = '[' :: (a ++ ']' :: b) := by
  constructor
  · intro h
    unfold takeBracketed? at h
    split at h
    · obtain ⟨rfl, ha⟩ := eq_of_cutAtChar? h
      exact ⟨ha, rfl⟩
    · exact absurd h (by simp)
  · rintro ⟨ha, rfl⟩
    exact cutAtChar?_append ha b

theorem takeBracketed?_append (h : takeBracketed? s = some (a, b)) (t : Text) :
    takeBracketed? (s ++ t) = some (a, b ++ t) := by
  obtain ⟨ha, rfl⟩ := takeBracketed?_eq_some_iff.mp h
  exact takeBracketed?_eq_some_iff.mpr ⟨ha, by simp⟩

theorem takeNameSpace_bracketed (h : ']' ∉ a) (b : Text) :
    takeNameSpace ('[' :: (a ++ [']']) ++ b) = (a, dropSpace b) := by
  have hfound : takeBracketed? ('[' :: (a ++ [']']) ++ b) = some (a, b) :=
    takeBracketed?_eq_some_iff.mpr ⟨h, by simp⟩
  rw [takeNameSpace_eq, hfound]
  rfl

/-- A namespace is taken off in brackets, or the text is left as it is. -/
theorem takeNameSpace_cases (s : Text) :
    takeNameSpace s = ([], s) ∨
      ∃ a b, ']' ∉ a ∧ s = '[' :: (a ++ ']' :: b) ∧ takeNameSpace s = (a, dropSpace b) := by
  rw [takeNameSpace_eq]
  cases hs : takeBracketed? s with
  | none => exact Or.inl rfl
  | some found =>
    obtain ⟨ha, hb⟩ := takeBracketed?_eq_some_iff.mp hs
    exact Or.inr ⟨_, _, ha, hb, rfl⟩

theorem takeNameSpace_of_head (h : s.head? ≠ some '[') : takeNameSpace s = ([], s) := by
  rcases takeNameSpace_cases s with hs | ⟨a, b, -, rfl, -⟩
  · exact hs
  · simp at h

theorem takeWhile_isWord_append (ha : ∀ d ∈ a, Text.isWord d = true)
    (hb : ∀ d, b.head? = some d → Text.isWord d = false) :
    (a ++ b).takeWhile Text.isWord = a ∧ (a ++ b).dropWhile Text.isWord = b := by
  rw [List.takeWhile_append_of_pos ha, List.dropWhile_append_of_pos ha,
    Text.dropWhile_eq_self hb]
  refine ⟨?_, rfl⟩
  cases b with
  | nil => simp
  | cons d b => simp [hb d rfl]

theorem takeParenthesized_parenthesized (h : ')' ∉ a) (b : Text) :
    takeParenthesized ('(' :: (a ++ [')']) ++ b) = (a, b) := by
  simp [takeParenthesized, cutAtChar?_append h]

/-- A text in parentheses is taken off, or the text is left as it is. -/
theorem takeParenthesized_cases (s : Text) :
    takeParenthesized s = ([], s) ∨
      ∃ a b, ')' ∉ a ∧ s = '(' :: (a ++ ')' :: b) ∧ takeParenthesized s = (a, b) := by
  unfold takeParenthesized
  split
  · rename_i rest
    split
    · rename_i inside after hcut
      obtain ⟨rfl, hin⟩ := eq_of_cutAtChar? hcut
      exact Or.inr ⟨inside, after, hin, rfl, rfl⟩
    · exact Or.inl rfl
  · exact Or.inl rfl

theorem takeParenthesized_of_head (h : s.head? ≠ some '(') : takeParenthesized s = ([], s) := by
  rcases takeParenthesized_cases s with hs | ⟨a, b, -, rfl, -⟩
  · exact hs
  · simp at h

theorem exists_parenthesized (s : Text) :
    ∃ scope b parenthesized, takeParenthesized s = (scope, b) ∧ ')' ∉ scope ∧
      (parenthesized = [] ∧ scope = [] ∨ parenthesized = '(' :: (scope ++ [')'])) ∧
      s = parenthesized ++ b := by
  rcases takeParenthesized_cases s with hs | ⟨a, b, ha, he, hs⟩
  · exact ⟨_, _, [], hs, by simp, Or.inl ⟨rfl, rfl⟩, rfl⟩
  · exact ⟨a, b, _, hs, ha, Or.inr rfl, by simp [he]⟩

/-- Scopes are taken from before a text that can follow them. -/
theorem takeParenthesized_append {scope parenthesized : Text} (hclosed : ')' ∉ scope)
    (hp : parenthesized = [] ∧ scope = [] ∨ parenthesized = '(' :: (scope ++ [')']))
    (hb : ∀ d, b.head? = some d → Text.isWord d = false ∧ d ≠ '(') :
    takeParenthesized (parenthesized ++ b) = (scope, b) ∧
      ∀ d, (parenthesized ++ b).head? = some d → Text.isWord d = false := by
  rcases hp with ⟨rfl, rfl⟩ | rfl
  · exact ⟨takeParenthesized_of_head fun hc => (hb _ hc).2 rfl, fun d hd => (hb d hd).1⟩
  · refine ⟨takeParenthesized_parenthesized hclosed b, fun d hd => ?_⟩
    rw [← Option.some.inj hd]
    decide

end Scanning

/-- Takes the label from the start of a text, up to its colon. -/
def takeToColon? (s : Text) : Option (Label × Text) :=
  let type := s.takeWhile Text.isWord
  let (scope, s) := takeParenthesized (s.dropWhile Text.isWord)
  match s with
  | ':' :: rest => some (⟨type, scope, false⟩, rest)
  | '!' :: ':' :: rest => some (⟨type, scope, true⟩, rest)
  | _ => none

theorem takeLabel?_eq_map (s : Text) :
    takeLabel? s = (takeToColon? s).map fun found => (found.1, dropSpace found.2) := by
  unfold takeLabel? takeToColon?
  dsimp only
  split <;> simp [*]

/-- A text that a label is read from. Nothing may stand between the parentheses. -/
structure Label.IsText (l : Label) (t : Text) : Prop where
  type_word : ∀ c ∈ l.type, Text.isWord c = true
  scope_closed : ')' ∉ l.scope
  eq_append : ∃ parenthesized : Text,
    (parenthesized = [] ∧ l.scope = [] ∨ parenthesized = '(' :: (l.scope ++ [')'])) ∧
      t = l.type ++ (parenthesized ++ if l.breaking then ['!', ':'] else [':'])

section Labels

variable {s t rest : Text} {l : Label}

theorem exists_isText_of_takeToColon? (h : takeToColon? s = some (l, rest)) :
    ∃ t, l.IsText t ∧ s = t ++ rest := by
  have hword : ∀ c ∈ s.takeWhile Text.isWord, Text.isWord c = true :=
    fun c hc => List.mem_takeWhile_imp hc
  have hs : s = s.takeWhile Text.isWord ++ s.dropWhile Text.isWord :=
    List.takeWhile_append_dropWhile.symm
  obtain ⟨scope, b, parenthesized, htake, hclosed, hparenthesized, hdrop⟩ :=
    exists_parenthesized (s.dropWhile Text.isWord)
  rw [hdrop] at hs
  unfold takeToColon? at h
  simp only [htake] at h
  split at h
  · simp only [Option.some.injEq, Prod.mk.injEq] at h
    obtain ⟨rfl, rfl⟩ := h
    exact ⟨_, ⟨hword, hclosed, parenthesized, hparenthesized, rfl⟩, hs.trans (by simp)⟩
  · simp only [Option.some.injEq, Prod.mk.injEq] at h
    obtain ⟨rfl, rfl⟩ := h
    exact ⟨_, ⟨hword, hclosed, parenthesized, hparenthesized, rfl⟩, hs.trans (by simp)⟩
  · exact absurd h (by simp)

theorem Label.IsText.takeToColon?_append (ht : l.IsText t) (rest : Text) :
    takeToColon? (t ++ rest) = some (l, rest) := by
  obtain ⟨hword, hclosed, parenthesized, hparenthesized, rfl⟩ := ht
  obtain ⟨type, scope, breaking⟩ := l
  have hmark : ∀ d, ((if breaking then ['!', ':'] else [':']) ++ rest).head? = some d →
      Text.isWord d = false ∧ d ≠ '(' := by
    intro d hd
    cases breaking with
    | false => exact Option.some.inj hd ▸ by decide
    | true => exact Option.some.inj hd ▸ by decide
  obtain ⟨htake, hhead⟩ := takeParenthesized_append hclosed hparenthesized hmark
  obtain ⟨htype, hrest⟩ := takeWhile_isWord_append hword hhead
  unfold takeToColon?
  simp only [List.append_assoc, htype, hrest, htake]
  cases breaking <;> rfl

/-- A label is taken from a text that begins with one of its texts. -/
theorem takeToColon?_eq_some_iff :
    takeToColon? s = some (l, rest) ↔ ∃ t, l.IsText t ∧ s = t ++ rest := by
  constructor
  · exact exists_isText_of_takeToColon?
  · rintro ⟨t, ht, rfl⟩
    exact ht.takeToColon?_append rest

theorem takeToColon?_append (h : takeToColon? s = some (l, rest)) (t : Text) :
    takeToColon? (s ++ t) = some (l, rest ++ t) := by
  obtain ⟨u, hu, rfl⟩ := takeToColon?_eq_some_iff.mp h
  exact takeToColon?_eq_some_iff.mpr ⟨u, hu, List.append_assoc u rest t⟩

end Labels

theorem takeNameSpace_suffix {s ns rest : Text} (h : takeNameSpace s = (ns, rest)) :
    rest <:+ s ∧ (∀ c ∈ ns, c ∈ s) ∧ ']' ∉ ns := by
  rcases takeNameSpace_cases s with hs | ⟨a, b, ha, rfl, hs⟩
  · rw [hs, Prod.mk.injEq] at h
    obtain ⟨rfl, rfl⟩ := h
    simp
  · rw [hs, Prod.mk.injEq] at h
    obtain ⟨rfl, rfl⟩ := h
    refine ⟨(dropSpace_suffix b).trans ?_, ?_, ha⟩
    · exact ⟨'[' :: (a ++ [']']), by simp⟩
    · intro c hc
      simp [hc]

/-- A label is followed by a colon; its type is a word and its scopes are closed. -/
theorem takeLabel?_eq_some {s : Text} {label : Label} {subject : Text}
    (h : takeLabel? s = some (label, subject)) :
    ∃ tail, ':' :: tail <:+ s ∧ subject = dropSpace tail ∧
      (∀ c ∈ label.type, Text.isWord c = true) ∧ ∀ c ∈ label.scope, c ∈ s ∧ c ≠ ')' := by
  rw [takeLabel?_eq_map] at h
  obtain ⟨⟨l, tail⟩, hfound, he⟩ := Option.map_eq_some_iff.mp h
  rw [Prod.mk.injEq] at he
  obtain ⟨rfl, rfl⟩ := he
  obtain ⟨t, ⟨hword, hclosed, parenthesized, hparenthesized, rfl⟩, rfl⟩ :=
    takeToColon?_eq_some_iff.mp hfound
  refine ⟨tail, ?_, rfl, hword, fun c hc => ⟨?_, fun he => hclosed (he ▸ hc)⟩⟩
  · refine ⟨l.type ++ (parenthesized ++ if l.breaking then ['!'] else []), ?_⟩
    cases l.breaking <;> simp
  · rcases hparenthesized with ⟨-, hscope⟩ | rfl
    · rw [hscope] at hc
      exact absurd hc (by simp)
    · simp [hc]

end CommitStandard.Header
