import Mathlib.Tactic
import CommitStandard.Message.Basic

/-!
# Footers by their tokens

The footers of a message are looked up, set and removed by their tokens, of which the first counts
(`IsFirst`). Setting changes the text of the first footer with a token or adds one at the end,
removing takes out the first, and nothing is different for other tokens (`footers_keyed`). Taking
out the first footer that says the same as the one found comes to the same.
-/
namespace CommitStandard.Message

/-- What is before and after the first footer with a token. -/
structure IsFirst (token : Text) (fs before : List Footer) (f : Footer) (after : List Footer) :
    Prop where
  eq_append : fs = before ++ f :: after
  before_other : ∀ g ∈ before, g.hasToken token = false
  hasToken : f.hasToken token = true

variable {token : Text} {fs before after : List Footer} {f : Footer}

theorem exists_isFirst_or (token : Text) (fs : List Footer) :
    (∃ before f after, IsFirst token fs before f after) ∨ ∀ f ∈ fs, f.hasToken token = false := by
  induction fs with
  | nil => exact Or.inr (by simp)
  | cons g fs ih =>
    cases hg : g.hasToken token with
    | true => exact Or.inl ⟨[], g, fs, rfl, by simp, hg⟩
    | false =>
      refine ih.imp ?_ fun hall => List.forall_mem_cons.mpr ⟨hg, hall⟩
      rintro ⟨before, f, after, h⟩
      exact ⟨g :: before, f, after, by rw [h.eq_append]; rfl,
        List.forall_mem_cons.mpr ⟨hg, h.before_other⟩, h.hasToken⟩

theorem find?_append_cons {p : Footer → Bool} (hbefore : ∀ g ∈ before, p g = false)
    (hf : p f = true) : (before ++ f :: after).find? p = some f := by
  rw [List.find?_append, List.find?_eq_none.mpr (by simpa using hbefore), List.find?_cons_of_pos hf]
  rfl

namespace IsFirst

variable (h : IsFirst token fs before f after)

include h

theorem find?_eq : fs.find? (·.hasToken token) = some f := by
  rw [h.eq_append]
  exact find?_append_cons h.before_other h.hasToken

theorem updateFirst_eq (change : Footer → Footer) :
    updateFirst token change fs = before ++ change f :: after := by
  obtain ⟨rfl, hbefore, hf⟩ := h
  induction before with
  | nil => rw [List.nil_append, updateFirst, if_pos hf, List.nil_append]
  | cons g before ih =>
    obtain ⟨hg, hbefore⟩ := List.forall_mem_cons.mp hbefore
    rw [List.cons_append, updateFirst, if_neg (by simp [hg]), ih hbefore, List.cons_append]

theorem eraseP_eq {p : Footer → Bool} (hp : ∀ g ∈ before, p g = false) (hf : p f = true) :
    fs.eraseP p = before ++ after := by
  rw [h.eq_append, List.eraseP_append_right _ (by simpa using hp), List.eraseP_cons_of_pos hf]

/-- No footer before the first one says the same. -/
theorem sameAs_before : ∀ g ∈ before, g.sameAs f = false := by
  intro g hg
  rw [← Bool.not_eq_true]
  intro hsame
  have htoken : g.token = f.token := by
    simp only [Footer.sameAs, Bool.and_eq_true, beq_iff_eq] at hsame
    exact hsame.1
  have hother := h.before_other g hg
  rw [Footer.hasToken, htoken, ← Footer.hasToken, h.hasToken] at hother
  exact absurd hother (by decide)

end IsFirst

/-- A footer with one token is not found by another. -/
theorem hasToken_of_ne {other : Text} (hf : f.hasToken token = true)
    (hne : Footer.normalizeToken other ≠ Footer.normalizeToken token) :
    f.hasToken other = false := by
  rw [Footer.hasToken, beq_iff_eq] at hf
  rw [Footer.hasToken, hf]
  exact beq_false_of_ne hne.symm

theorem find?_append_cons_of_neg {p : Footer → Bool} (hf : p f = false) :
    (before ++ f :: after).find? p = (before ++ after).find? p := by
  rw [List.find?_append, List.find?_append, List.find?_cons_of_neg (by simp [hf])]

variable (m : Message)

/-- What setting and removing do where the token is found. -/
theorem edits_of_isFirst (h : IsFirst token m.footers before f after) (text : Text) :
    m.footer? token = some f ∧
      m.upsertFooter token text =
        ⟨{ m with footers := before ++ f.setText text :: after }, some (f.setText text)⟩ ∧
      m.removeFooter token = ⟨{ m with footers := before ++ after }, some f⟩ ∧
      m.footers.eraseP (·.sameAs f) = before ++ after := by
  have hfound : m.footer? token = some f := h.find?_eq
  refine ⟨hfound, ?_, ?_, h.eraseP_eq h.sameAs_before (by simp [Footer.sameAs])⟩
  · rw [upsertFooter, hfound, h.updateFirst_eq]
  · rw [removeFooter, hfound, h.eraseP_eq h.before_other h.hasToken]

/-- What setting and removing do where the token is not found. -/
theorem edits_of_notFound (h : ∀ f ∈ m.footers, f.hasToken token = false) (text : Text) :
    m.footer? token = none ∧
      m.upsertFooter token text =
        ⟨{ m with footers := m.footers ++ [.make token text] }, some (.make token text)⟩ ∧
      m.removeFooter token = ⟨m, none⟩ := by
  have hnone : m.footer? token = none := List.find?_eq_none.mpr (by simpa using h)
  refine ⟨hnone, ?_, ?_⟩
  · rw [upsertFooter, hnone]
  · rw [removeFooter, hnone, List.eraseP_of_forall_not (by simpa using h)]

/-- The footers are kept by their tokens. The token that is set has the text, trimmed. The first
footer with the token is the one that is changed or taken out, and the others stay in their
places; taking out the first that says the same comes to the same. Without such a footer one is
added at the end, and none is taken out. By another token the same footer is found as before. -/
theorem footers_keyed (token text : Text) :
    ((m.upsertFooter token text).message.footer? token).map Footer.text = some (Text.strip text) ∧
      ((∃ before f after, IsFirst token m.footers before f after ∧
          m.footer? token = some f ∧
          m.upsertFooter token text =
            ⟨{ m with footers := before ++ f.setText text :: after }, some (f.setText text)⟩ ∧
          m.removeFooter token = ⟨{ m with footers := before ++ after }, some f⟩ ∧
          m.footers.eraseP (·.sameAs f) = before ++ after) ∨
        (∀ f ∈ m.footers, f.hasToken token = false) ∧
          m.footer? token = none ∧
          m.upsertFooter token text =
            ⟨{ m with footers := m.footers ++ [.make token text] }, some (.make token text)⟩ ∧
          m.removeFooter token = ⟨m, none⟩) ∧
      ∀ other, Footer.normalizeToken other ≠ Footer.normalizeToken token →
        (m.upsertFooter token text).message.footer? other = m.footer? other ∧
          (m.removeFooter token).message.footer? other = m.footer? other := by
  rcases exists_isFirst_or token m.footers with ⟨before, f, after, h⟩ | h
  · obtain ⟨hfound, hset, hremoved, herased⟩ := m.edits_of_isFirst h text
    refine ⟨?_, Or.inl ⟨before, f, after, h, hfound, hset, hremoved, herased⟩, fun other hne => ?_⟩
    · have hchanged : (f.setText text).hasToken token = true := h.hasToken
      rw [hset, footer?, find?_append_cons h.before_other hchanged]
      rfl
    · have hother : f.hasToken other = false := hasToken_of_ne h.hasToken hne
      have hother' : (f.setText text).hasToken other = false := hother
      rw [hset, hremoved]
      simp only [footer?, h.eq_append]
      rw [find?_append_cons_of_neg hother', find?_append_cons_of_neg hother]
      exact ⟨rfl, rfl⟩
  · obtain ⟨hnone, hset, hremoved⟩ := m.edits_of_notFound h text
    have hmade : (Footer.make token text).hasToken token = true := by
      simp [Footer.hasToken, Footer.make]
    refine ⟨?_, Or.inr ⟨h, hnone, hset, hremoved⟩, fun other hne => ?_⟩
    · rw [hset, footer?, find?_append_cons h hmade]
      rfl
    · refine ⟨?_, by rw [hremoved]⟩
      rw [hset, footer?, footer?, find?_append_cons_of_neg (hasToken_of_ne hmade hne),
        List.append_nil]

/-- A message that refers to one issue twice, the same way. -/
def referringMessage : Message :=
  .make (.make .standard [] [] [] "X".toList false) []
    [.make "See-also".toList "a".toList, .make "Refs".toList "#1".toList,
     .make "Refs".toList "#2".toList, .make "Refs".toList "#1".toList]

/-- The first reference is removed, and the other footers are found as before. -/
theorem footers_keyed_referringMessage :
    ((referringMessage.removeFooter "refs".toList).message.footers.map Footer.plain =
        ["See-also: a".toList, "Refs: #2".toList, "Refs: #1".toList]) ∧
      Footer.normalizeToken "see_also".toList ≠ Footer.normalizeToken "refs".toList ∧
      (referringMessage.removeFooter "refs".toList).message.footer? "see_also".toList =
        referringMessage.footer? "see_also".toList := by
  have hne : Footer.normalizeToken "see_also".toList ≠ Footer.normalizeToken "refs".toList := by
    decide +kernel
  exact ⟨by decide +kernel, hne, ((footers_keyed referringMessage "refs".toList []).2.2 _ hne).2⟩

end CommitStandard.Message
