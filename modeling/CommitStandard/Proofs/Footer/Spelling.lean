import Mathlib.Tactic
import CommitStandard.Message.Basic
import CommitStandard.Proofs.Footer.RoundTrip
import CommitStandard.Proofs.Text.Words

/-!
# The spelling of tokens

Putting a token in its normal spelling takes a text apart at every second boundary of
those that follow each other, so `a1b` becomes `A-1b` and then `A-1-b`. A token in its
normal spelling is left alone by one more pass exactly if no word begins inside of its
words and its casing is settled (`normalizeToken_eq_self_iff`). All that a footer is
looked up and set by depends on this (`normalizeToken_normalizeToken_iff`).
-/
namespace CommitStandard.Footer

open CommitStandard.Text (Unbroken capitalize lower sentenceKebab strip)

/-- Whether a token is put in another spelling, being neither that of a breaking change nor one
with other characters in it. -/
def isOrdinary (t : Text) : Bool :=
  !(breakingTokens.contains t || t.isEmpty || !t.all isTokenChar)

/-- Whether nothing is left to spell: an ordinary token has no boundary inside of its words, and
its casing is that of a sentence. -/
def IsSpelled (t : Text) : Prop :=
  isOrdinary t = true → Unbroken t ∧ capitalize (lower t) = t

instance (t : Text) : Decidable (IsSpelled t) :=
  inferInstanceAs (Decidable (isOrdinary t = true → Unbroken t ∧ capitalize (lower t) = t))

variable {t : Text}

theorem normalizeToken_eq (t : Text) :
    normalizeToken t = if isOrdinary (strip t) then sentenceKebab (strip t) else strip t := by
  rw [normalizeToken, isOrdinary]
  cases breakingTokens.contains (strip t) || (strip t).isEmpty || !(strip t).all isTokenChar <;> rfl

/-- A token in its normal spelling is trimmed, and made of words if it is an ordinary one. -/
theorem normalizeToken_spec (t : Text) :
    strip (normalizeToken t) = normalizeToken t ∧
      (isOrdinary (normalizeToken t) = true →
        ∃ ws, normalizeToken t = Text.join ['-'] ws ∧ ∀ w ∈ ws, Text.IsSolid w) := by
  rw [normalizeToken_eq]
  split
  · obtain ⟨ws, hws, hsolid⟩ := Text.exists_sentenceKebab_eq_join (strip t)
    refine ⟨Text.strip_eq_self_of_forall fun c hc => ?_, fun _ => ⟨ws, hws, hsolid⟩⟩
    rw [hws] at hc
    rcases Text.mem_join hc with hc | ⟨w, hw, hc⟩
    · rw [List.mem_singleton.mp hc]
      decide
    · have hdelimiter := (hsolid w hw).isDelimiter_eq_false c hc
      simp only [Text.isDelimiter, Bool.or_eq_false_iff] at hdelimiter
      exact hdelimiter.1.1
  · rename_i hother
    exact ⟨Text.strip_strip t, fun h => absurd h hother⟩

/-- One more pass leaves a normal spelling alone exactly if nothing is left to spell. -/
theorem normalizeToken_eq_self_iff {u : Text} (hu : u = normalizeToken t) :
    normalizeToken u = u ↔ IsSpelled u := by
  obtain ⟨hstrip, hwords⟩ := normalizeToken_spec t
  rw [← hu] at hstrip hwords
  rw [normalizeToken_eq, hstrip]
  by_cases hordinary : isOrdinary u = true
  · obtain ⟨ws, hws, hsolid⟩ := hwords hordinary
    rw [if_pos hordinary, Text.sentenceKebab_eq_self_iff hsolid hws]
    exact ⟨fun h _ => h, fun h => h hordinary⟩
  · rw [if_neg hordinary]
    exact ⟨fun _ h => absurd h hordinary, fun _ => rfl⟩

theorem isSpelled_of_isBlankText (h : Text.isBlankText t = true) : IsSpelled t := by
  intro hordinary
  simp only [isOrdinary, Bool.not_eq_true', Bool.or_eq_false_iff, Bool.not_eq_false',
    List.all_eq_true, List.isEmpty_eq_false_iff] at hordinary
  obtain ⟨c, hc⟩ := List.exists_mem_of_ne_nil t hordinary.1.2
  have hsign := Text.isSign_of_isBlank (List.all_eq_true.mp h c hc)
  rw [isSign_of_isTokenChar (hordinary.2 c hc)] at hsign
  exact absurd hsign (by decide)

section Footers

variable {f : Footer} (hf : f.token = normalizeToken t)

include hf

theorem hasToken_token_iff : f.hasToken f.token = true ↔ IsSpelled f.token := by
  rw [hasToken, beq_iff_eq, eq_comm]
  exact normalizeToken_eq_self_iff hf

theorem setToken_token_iff : f.setToken f.token = f ↔ IsSpelled f.token := by
  rw [setToken]
  split
  · rename_i hblank
    exact ⟨fun _ => isSpelled_of_isBlankText hblank, fun _ => rfl⟩
  · rw [← normalizeToken_eq_self_iff hf]
    constructor
    · intro h
      exact congrArg Footer.token h
    · intro h
      rw [h]

variable {m : Message}

omit hf in
/-- Looking a token up finds a footer that has the token in its next spelling. -/
theorem isSome_footer?_token_iff :
    (m.footer? f.token).isSome = true ↔ normalizeToken f.token ∈ m.trailers := by
  rw [Message.footer?, List.find?_isSome, Message.trailers, List.mem_map]
  simp only [hasToken, beq_iff_eq]

theorem footer?_token_iff {g : Footer} (hg : m.footer? f.token = some g) :
    g.token = f.token ↔ IsSpelled f.token := by
  have htoken : g.token = normalizeToken f.token := by
    simpa [hasToken] using List.find?_some hg
  rw [htoken]
  exact normalizeToken_eq_self_iff hf

end Footers

/-- Spelling a token again changes nothing, a footer has its own token, setting that token
changes nothing, and looking it up finds a footer with it, all exactly if nothing is left to
spell. Otherwise only a footer with the next spelling is found, if there is one. -/
theorem normalizeToken_normalizeToken_iff (t : Text) :
    (normalizeToken (normalizeToken t) = normalizeToken t ↔ IsSpelled (normalizeToken t)) ∧
      ∀ f : Footer, f.token = normalizeToken t →
        (f.hasToken f.token = true ↔ IsSpelled f.token) ∧
        (f.setToken f.token = f ↔ IsSpelled f.token) ∧
        ∀ m : Message, f ∈ m.footers →
          ((m.footer? f.token).isSome = true ↔
            IsSpelled f.token ∨ normalizeToken f.token ∈ m.trailers) ∧
          ∀ g, m.footer? f.token = some g → (g.token = f.token ↔ IsSpelled f.token) := by
  refine ⟨normalizeToken_eq_self_iff rfl, fun f hf => ⟨hasToken_token_iff hf,
    setToken_token_iff hf, fun m hm => ⟨?_, fun g hg => footer?_token_iff hf hg⟩⟩⟩
  rw [isSome_footer?_token_iff]
  constructor
  · exact Or.inr
  · rintro (hspelled | htoken)
    · rw [(normalizeToken_eq_self_iff hf).mpr hspelled]
      exact List.mem_map_of_mem hm
    · exact htoken

/-- A sign-off is spelled the same way for good. -/
theorem normalizeToken_normalizeToken_signOff :
    normalizeToken (normalizeToken "signedOff_BY".toList) = "Signed-off-by".toList ∧
      (⟨"Signed-off-by".toList, [], .plain⟩ : Footer).hasToken "Signed-off-by".toList = true := by
  have h := normalizeToken_normalizeToken_iff "signedOff_BY".toList
  have hspelled : IsSpelled (normalizeToken "signedOff_BY".toList) := by decide +kernel
  have htoken : normalizeToken "signedOff_BY".toList = "Signed-off-by".toList := by decide +kernel
  exact ⟨(h.1.mpr hspelled).trans htoken,
    ((h.2 ⟨"Signed-off-by".toList, [], .plain⟩ htoken.symm).1).mpr (htoken ▸ hspelled)⟩

/-- The second spelling of a token takes apart what the first left together, so that a footer
does not have the token it was given. -/
theorem normalizeToken_normalizeToken_a1b :
    normalizeToken "a1b".toList = "A-1b".toList ∧
      normalizeToken "A-1b".toList = "A-1-b".toList ∧
      (make "a1b".toList "t".toList).hasToken (make "a1b".toList "t".toList).token = false ∧
      (Message.make (.make .standard [] [] [] "X".toList false) []
        [make "a1b".toList "t".toList]).footer? (make "a1b".toList "t".toList).token = none := by
  decide +kernel

end CommitStandard.Footer
