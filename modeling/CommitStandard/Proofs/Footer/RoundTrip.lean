import Mathlib.Tactic
import CommitStandard.Proofs.Text.Characters
import CommitStandard.Proofs.Text.Trimming
import CommitStandard.Footer

/-!
# Reading written footers

What stands before the first colon decides whether a line is a footer
(`takeToken?_eq_some_iff`, `parse_eq_ok_iff`). `Footer.Tidy` collects what
reading makes of a footer. The line of a tidy footer is read again exactly if
its token still is one, and then the text stays while the token is put in its
normal spelling once more (`parse_plain_iff`). That spelling is not always a
token: no word is left of a lone hyphen.
-/
namespace CommitStandard.Footer

/-- A token that a line can begin with. -/
def IsToken (t : Text) : Prop := t = breakingToken ∨ t ≠ [] ∧ ∀ c ∈ t, isTokenChar c = true

instance (t : Text) : Decidable (IsToken t) :=
  decidable_of_iff (t = breakingToken ∨ t ≠ [] ∧ t.all isTokenChar = true) (by
    rw [IsToken, List.all_eq_true])

theorem isSign_of_isTokenChar {c : Char} (h : isTokenChar c = true) : Text.isSign c = false := by
  rcases Bool.or_eq_true_iff.mp h with h | h
  · exact Text.isSign_of_isWord h
  · rw [of_decide_eq_true h]
    decide

section Tokens

variable {t r s : Text}

/-- Only the token of a breaking change has a sign in it, which is its space. -/
theorem IsToken.eq_breakingToken (h : IsToken t) {c : Char} (hc : c ∈ t)
    (hs : Text.isSign c = true) : t = breakingToken := by
  rcases h with h | h
  · exact h
  · rw [isSign_of_isTokenChar (h.2 c hc)] at hs
    exact absurd hs (by simp)

theorem IsToken.colon_notMem (h : IsToken t) : ':' ∉ t := by
  intro hc
  have ht := h.eq_breakingToken hc (by decide)
  subst ht
  revert hc
  decide

theorem head?_breakingToken : breakingToken.head? = some 'B' := rfl

theorem takeToken?_breakingToken (r : Text) :
    takeToken? (breakingToken ++ ':' :: r) = some (breakingToken, r) := by
  rfl

/-- The text before the first colon, if it is a token, is taken. -/
theorem takeToken?_eq_some_iff : takeToken? s = some (t, r) ↔ IsToken t ∧ s = t ++ ':' :: r := by
  constructor
  · intro h
    unfold takeToken? at h
    split at h
    · rename_i hp
      obtain ⟨rest, hs⟩ := List.isPrefixOf_iff_prefix.mp hp
      simp only [Option.some.injEq, Prod.mk.injEq] at h
      obtain ⟨ht, hr⟩ := h
      have hrest : rest = r := by
        rw [← hr, ← hs]
        exact (List.drop_left' (by simp)).symm
      refine ⟨Or.inl ht.symm, ?_⟩
      rw [← hs, ← ht, hrest, List.append_assoc, List.singleton_append]
    · split at h
      · rename_i c token rest htake hdrop
        simp only [Option.some.injEq, Prod.mk.injEq] at h
        obtain ⟨rfl, rfl⟩ := h
        refine ⟨Or.inr ⟨by simp, ?_⟩, ?_⟩
        · intro d hd
          rw [← htake] at hd
          exact List.mem_takeWhile_imp hd
        · rw [← htake, ← hdrop, List.takeWhile_append_dropWhile]
      · exact absurd h (by simp)
  · rintro ⟨ht, rfl⟩
    by_cases hb : t = breakingToken
    · rw [hb, takeToken?_breakingToken]
    · obtain ⟨hne, hchar⟩ := ht.resolve_left hb
      have hnot : (breakingToken ++ [':']).isPrefixOf (t ++ ':' :: r) = false := by
        rw [← Bool.not_eq_true, List.isPrefixOf_iff_prefix]
        rintro ⟨rest, hrest⟩
        have hcolon : ':' ∉ breakingToken := by decide
        rw [List.append_assoc, List.singleton_append] at hrest
        exact hb (Text.eq_of_append_cons hcolon ht.colon_notMem hrest).1.symm
      have htake : (t ++ ':' :: r).takeWhile isTokenChar = t := by
        rw [List.takeWhile_append_of_pos hchar, List.takeWhile_cons_of_neg (by decide),
          List.append_nil]
      have hdrop : (t ++ ':' :: r).dropWhile isTokenChar = ':' :: r := by
        rw [List.dropWhile_append_of_pos hchar, List.dropWhile_cons_of_neg (by decide)]
      obtain ⟨c, token, rfl⟩ := List.exists_cons_of_ne_nil hne
      rw [takeToken?, hnot, htake, hdrop]
      rfl

theorem takeText?_spaceBefore {text : Text} (h : '\n' ∉ text) :
    takeText? (Text.spaceBefore text) = some text := by
  cases text with
  | nil => rfl
  | cons c text => simp [takeText?, h]

theorem takeText?_eq_some {text : Text} (h : takeText? r = some text) :
    (r = [] ∧ text = [] ∨ r = ' ' :: text) ∧ '\n' ∉ text := by
  unfold takeText? at h
  split at h
  · rw [← Option.some.inj h]
    simp
  · split at h
    · exact absurd h (by simp)
    · rename_i hn
      rw [← Option.some.inj h]
      exact ⟨Or.inr rfl, hn⟩
  · exact absurd h (by simp)

end Tokens

/-- A line is a footer if a token, a colon and a text can be taken from it. -/
theorem parse_eq_ok_iff {line : Text} {f : Footer} :
    parse line = .ok f ↔ ∃ token rest text, IsToken token ∧
      Text.strip line = token ++ ':' :: rest ∧ takeText? rest = some text ∧
      f = make token text := by
  constructor
  · intro h
    simp only [parse] at h
    split at h
    · rename_i g hg
      obtain ⟨⟨token, rest⟩, htoken, hrest⟩ := Option.bind_eq_some_iff.mp hg
      obtain ⟨text, htext, hf⟩ := Option.bind_eq_some_iff.mp hrest
      obtain ⟨ht, hs⟩ := takeToken?_eq_some_iff.mp htoken
      refine ⟨token, rest, text, ht, hs, htext, ?_⟩
      rw [← Except.ok.inj h]
      exact (Option.some.inj hf).symm
    · exact absurd h (by simp)
  · rintro ⟨token, rest, text, ht, hs, htext, rfl⟩
    have htoken := takeToken?_eq_some_iff.mpr ⟨ht, hs⟩
    simp [parse, htoken, htext]

theorem plain_eq (f : Footer) : f.plain = f.token ++ ':' :: Text.spaceBefore f.text := by
  unfold plain Text.spaceBefore
  cases f.text <;> simp

/-- What reading makes of a footer. -/
structure Tidy (f : Footer) : Prop where
  token_plain : ∀ c ∈ f.token, Text.isSign c = true → f.token = breakingToken
  text_trimmed : Text.strip f.text = f.text
  text_line : '\n' ∉ f.text

theorem isSign_normalizeToken {t : Text} (ht : IsToken t) {c : Char} (hc : c ∈ normalizeToken t)
    (hs : Text.isSign c = true) : normalizeToken t = breakingToken := by
  unfold normalizeToken at hc ⊢
  simp only at hc ⊢
  split at hc
  · rename_i hkept
    have ht' := ht.eq_breakingToken (Text.mem_of_mem_strip hc) hs
    rw [if_pos hkept, ht']
    rfl
  · have ht' := ht.eq_breakingToken (Text.mem_of_mem_strip (Text.mem_of_mem_sentenceKebab hc hs)) hs
    rw [ht']
    rfl

theorem tidy_make {token text : Text} (ht : IsToken token) (hn : '\n' ∉ text) :
    (make token text).Tidy where
  token_plain := fun _ hc hs => isSign_normalizeToken ht hc hs
  text_trimmed := Text.strip_strip text
  text_line := fun hc => hn (Text.mem_of_mem_strip hc)

theorem tidy_of_parse {line : Text} {f : Footer} (h : parse line = .ok f) : f.Tidy := by
  obtain ⟨token, rest, text, ht, -, htext, rfl⟩ := parse_eq_ok_iff.mp h
  exact tidy_make ht (takeText?_eq_some htext).2

/-- A footer that was read has no paint. -/
theorem style_of_parse {line : Text} {f : Footer} (h : parse line = .ok f) : f.style = .plain := by
  obtain ⟨token, rest, text, -, -, -, rfl⟩ := parse_eq_ok_iff.mp h
  rfl

theorem render_of_style {f : Footer} (h : f.style = .plain) : f.render = f.plain := by
  rw [render, h, Style.apply_plain]

theorem tidy_of_isToken {f : Footer} (ht : IsToken f.token) (hs : Text.strip f.text = f.text)
    (hn : '\n' ∉ f.text) : f.Tidy :=
  ⟨fun _ hc hsign => ht.eq_breakingToken hc hsign, hs, hn⟩

namespace Tidy

variable {f g : Footer} {c : Char}

theorem colon_notMem (hf : f.Tidy) : ':' ∉ f.token := by
  intro hc
  have ht := hf.token_plain _ hc (by decide)
  rw [ht] at hc
  revert hc
  decide

/-- The line begins with no sign but the colon. -/
theorem head?_plain (hf : f.Tidy) (hc : f.plain.head? = some c) :
    c = ':' ∨ Text.isSign c = false := by
  rw [plain_eq] at hc
  cases ht : f.token with
  | nil =>
    rw [ht] at hc
    exact Or.inl (Option.some.inj hc).symm
  | cons d token =>
    rw [ht] at hc
    obtain rfl : d = c := Option.some.inj hc
    right
    rw [← Bool.not_eq_true]
    intro hs
    have hb := congrArg List.head? (hf.token_plain d (by simp [ht]) hs)
    rw [ht, head?_breakingToken] at hb
    rw [Option.some.inj hb] at hs
    exact absurd hs (by decide)

theorem strip_plain (hf : f.Tidy) : Text.strip f.plain = f.plain := by
  refine Text.strip_eq_self ?_ ?_
  · intro c hc
    rcases hf.head?_plain hc with rfl | hs
    · decide
    · rw [← Bool.not_eq_true]
      intro hb
      rw [Text.isSign_of_isBlank hb] at hs
      exact absurd hs (by simp)
  · intro c hc
    rw [plain_eq, List.getLast?_append] at hc
    cases htext : f.text with
    | nil =>
      rw [htext] at hc
      obtain rfl : ':' = c := Option.some.inj hc
      decide
    | cons d text =>
      have hlast : f.text.getLast? = some c := by
        rw [htext] at hc ⊢
        simpa using hc
      exact Text.getLast?_of_strip hf.text_trimmed hlast

/-- The line is no comment. -/
theorem head?_plain_ne (hf : f.Tidy) : f.plain.head? ≠ some '#' := by
  intro hc
  rcases hf.head?_plain hc with h0 | h0 <;> exact absurd h0 (by decide)

/-- No carriage return is at the end of the line. -/
theorem getLast?_plain_ne (hf : f.Tidy) : f.plain.getLast? ≠ some '\r' := by
  intro hc
  exact absurd (Text.getLast?_of_strip hf.strip_plain hc) (by decide)

theorem newline_notMem_plain (hf : f.Tidy) : '\n' ∉ f.plain := by
  rw [plain_eq]
  simp only [List.mem_append, List.mem_cons, not_or]
  refine ⟨?_, by decide, ?_⟩
  · intro hc
    have ht := hf.token_plain _ hc (by decide)
    rw [ht] at hc
    revert hc
    decide
  · intro hc
    rcases Text.mem_spaceBefore hc with hc | hc
    · exact absurd hc (by decide)
    · exact hf.text_line hc

/-- The line of a footer is read as a footer exactly if its token is one; the text stays. -/
theorem parse_plain_iff (hf : f.Tidy) :
    parse f.plain = .ok g ↔ IsToken f.token ∧ g = make f.token f.text := by
  rw [parse_eq_ok_iff, hf.strip_plain, plain_eq]
  constructor
  · rintro ⟨token, rest, text, ht, hs, htext, rfl⟩
    obtain ⟨rfl, rfl⟩ := Text.eq_of_append_cons hf.colon_notMem ht.colon_notMem hs
    rw [takeText?_spaceBefore hf.text_line] at htext
    exact ⟨ht, by rw [Option.some.inj htext]⟩
  · rintro ⟨ht, rfl⟩
    exact ⟨_, _, _, ht, rfl, takeText?_spaceBefore hf.text_line, rfl⟩

end Tidy

theorem isBlankText_plain (f : Footer) : Text.isBlankText f.plain = false := by
  rw [← Bool.not_eq_true, Text.isBlankText, List.all_eq_true]
  intro h
  exact absurd (h ':' (by simp [plain_eq])) (by decide)

/-- Whether the line of the footer is a footer again. -/
def isReadable (f : Footer) : Bool := (parse f.plain).isOk

theorem Tidy.isReadable_iff {f : Footer} (hf : f.Tidy) : f.isReadable = true ↔ IsToken f.token := by
  unfold isReadable
  constructor
  · intro h
    cases hp : parse f.plain with
    | error e =>
      rw [hp] at h
      exact absurd h (by simp [Except.isOk, Except.toBool])
    | ok g => exact (hf.parse_plain_iff.mp hp).1
  · intro ht
    rw [hf.parse_plain_iff.mpr ⟨ht, rfl⟩]
    rfl

/-- Reading the line of a footer makes the same line exactly if the token is in its normal
spelling. -/
theorem plain_make_iff {f : Footer} (hf : f.Tidy) :
    (make f.token f.text).plain = f.plain ↔ normalizeToken f.token = f.token := by
  simp only [plain_eq, make, hf.text_trimmed]
  exact List.append_left_inj _

end CommitStandard.Footer
