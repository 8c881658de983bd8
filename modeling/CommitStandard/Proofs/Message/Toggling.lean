import Mathlib.Tactic
import CommitStandard.Proofs.Text.Trimming
import CommitStandard.Message.Basic

/-!
# Announcing a breaking change and taking it back

A breaking change is announced in three places: the mark before the colon, the
emoji at the end of the subject, and a footer. `toggleBreaking` always changes
what the message announces (`isBreaking_toggleBreaking`). Announcing and taking
back cancel for every footer list, and in the header as soon as the emoji can be
told from the subject (`toggleBreaking_toggleBreaking`).
-/
namespace CommitStandard

namespace Header

/-- A trimmed text joined to another trimmed text by a space, or the second alone. -/
theorem strip_append_emoji {emoji subject : Text} (hs : Text.strip subject = subject)
    (he : Text.strip emoji = emoji) (hne : emoji ≠ []) :
    Text.strip (subject ++ ' ' :: emoji) =
      if subject = [] then emoji else subject ++ ' ' :: emoji := by
  obtain ⟨c, cs, rfl⟩ := List.exists_cons_of_ne_nil hne
  have hhead : ∀ d, (c :: cs).head? = some d → Text.isBlank d = false :=
    fun d hd => Text.head?_of_strip he hd
  by_cases h0 : subject = []
  · rw [if_pos h0, h0]
    have hdrop : Text.strip ([] ++ ' ' :: c :: cs) = Text.strip (c :: cs) := by
      rw [Text.strip_eq_trimEnds, Text.strip_eq_trimEnds, Text.trimEnds, List.nil_append,
        List.dropWhile_cons_of_pos (by decide)]
      rfl
    rw [hdrop, he]
  · rw [if_neg h0, Text.strip_append_space h0 (fun d hd => Text.head?_of_strip hs hd)
      (fun d hd => Text.getLast?_of_strip hs hd) hhead, he, Text.spaceBefore_cons]

/-- Taking the emoji off undoes putting it on. -/
theorem removeEmoji_addEmoji {emoji subject : Text} (hs : Text.strip subject = subject)
    (hend : ¬ emoji <:+ subject) (hne : emoji ≠ []) (he : Text.strip emoji = emoji) :
    removeEmoji emoji (addEmoji emoji subject) = subject := by
  have hadd : addEmoji emoji subject =
      if subject = [] then emoji else subject ++ ' ' :: emoji := by
    have hno : ¬(emoji.isEmpty || emoji.isSuffixOf subject) = true := by
      simpa [List.isSuffixOf_iff_suffix, hne] using hend
    rw [addEmoji, if_neg hno, strip_append_emoji hs he hne]
  have hremove : ∀ before : Text, removeEmoji emoji (before ++ emoji) = Text.stripEnd before := by
    intro before
    have hyes : (!emoji.isEmpty && emoji.isSuffixOf (before ++ emoji)) = true := by
      simp [hne]
    rw [removeEmoji, if_pos hyes, List.length_append, Nat.add_sub_cancel, List.take_left']
    rfl
  by_cases h0 : subject = []
  · rw [hadd, if_pos h0, h0]
    exact hremove []
  · rw [hadd, if_neg h0, List.append_cons, hremove]
    -- Only the space before the emoji goes with it.
    have hlast : subject.rdropWhile Text.isBlank = subject := by
      rw [List.rdropWhile_eq_self_iff]
      intro hne
      simpa using Text.getLast?_of_strip hs (List.getLast?_eq_some_getLast hne)
    show (subject ++ [' ']).rdropWhile Text.isBlank = subject
    rw [List.rdropWhile_concat_pos _ _ _ (by decide), hlast]

@[simp] theorem breaking_setBreaking (h : Header) (wanted : Bool) :
    (h.setBreaking wanted).breaking = wanted := by
  unfold setBreaking
  split
  · rename_i heq
    exact heq.symm
  · split <;> simp_all

/-- The marks in a header cancel. -/
theorem setBreaking_setBreaking {h : Header} (hb : h.breaking = false)
    (hs : Text.strip h.subject = h.subject) (hend : ¬ h.options.breakingEmoji <:+ h.subject)
    (hne : h.options.breakingEmoji ≠ [])
    (he : Text.strip h.options.breakingEmoji = h.options.breakingEmoji) :
    (h.setBreaking true).setBreaking false = h := by
  have hemoji := removeEmoji_addEmoji hs hend hne he
  obtain ⟨nameSpace, type, scopes, subject, breaking, options, styles⟩ := h
  subst hb
  simpa [setBreaking] using hemoji

end Header

namespace Message

def quietFooters (m : Message) : List Footer := m.footers.filter fun f => !f.isBreaking

theorem isBreaking_eq_false_iff {m : Message} :
    m.isBreaking = false ↔ m.header.breaking = false ∧ ∀ f ∈ m.footers, f.isBreaking = false := by
  rw [isBreaking, Bool.or_eq_false_iff, List.any_eq_false]
  simp only [Bool.not_eq_true]

theorem quietFooters_eq_self {m : Message} (h : m.isBreaking = false) :
    m.quietFooters = m.footers := by
  rw [quietFooters, List.filter_eq_self]
  intro f hf
  rw [(isBreaking_eq_false_iff.mp h).2 f hf]
  rfl

theorem toggleBreaking_of_isBreaking {m : Message} (h : m.isBreaking = true) (t : Option Text) :
    m.toggleBreaking t =
      { m with header := m.header.setBreaking false, footers := m.quietFooters } := by
  unfold toggleBreaking
  rw [if_pos h]
  rfl

/-- A token that announces a breaking change is in its normal spelling. -/
theorem token_make_breakingToken (text : Text) :
    (Footer.make Footer.breakingToken text).token = Footer.breakingToken :=
  (by decide : Footer.normalizeToken Footer.breakingToken = Footer.breakingToken)

/-- Where no footer announces a breaking change, the footer that does is a new one. -/
theorem upsertFooter_breakingToken {m : Message} (h : ∀ f ∈ m.footers, f.isBreaking = false)
    (text : Text) :
    (m.upsertFooter Footer.breakingToken text).message =
      { m with footers := m.footers ++ [Footer.make Footer.breakingToken text] } := by
  have hnone : m.footer? Footer.breakingToken = none := by
    rw [footer?, List.find?_eq_none]
    intro f hf htoken
    have hquiet := h f hf
    rw [Footer.isBreaking, eq_of_beq htoken,
      show Footer.normalizeToken Footer.breakingToken = Footer.breakingToken from
        token_make_breakingToken []] at hquiet
    exact absurd hquiet (by decide)
  rw [upsertFooter, hnone]

/-- The text that is announced and remembered: the one given now, or else the one before. -/
def announcedText (m : Message) : Option Text → Option Text
  | some (c :: cs) => some (c :: cs)
  | _ => m.breakingText

/-- The footers that an announcement adds. -/
def announcement : Option Text → List Footer
  | some (c :: cs) => [Footer.make Footer.breakingToken (c :: cs)]
  | _ => []

theorem isBreaking_of_mem_announcement {t : Option Text} {f : Footer} (hf : f ∈ announcement t) :
    f.isBreaking = true := by
  unfold announcement at hf
  split at hf
  · rw [List.mem_singleton.mp hf, Footer.isBreaking, token_make_breakingToken]
    decide
  · simp at hf

theorem toggleBreaking_of_not_isBreaking {m : Message} (h : m.isBreaking = false)
    (t : Option Text) :
    m.toggleBreaking t =
      { m with
        header := m.header.setBreaking true
        footers := m.footers ++ announcement (m.announcedText t)
        breakingText := m.announcedText t } := by
  have hquiet : ∀ f ∈ m.footers, f.isBreaking = false := (isBreaking_eq_false_iff.mp h).2
  unfold toggleBreaking
  rw [if_neg (by simp [h])]
  obtain ⟨header, body, footers, bodyStyle, remembered⟩ := m
  have hadd : ∀ text given,
      (upsertFooter ⟨header.setBreaking true, body, footers, bodyStyle, given⟩
        Footer.breakingToken text).message =
      ⟨header.setBreaking true, body, footers ++ [Footer.make Footer.breakingToken text],
        bodyStyle, given⟩ :=
    fun text given => upsertFooter_breakingToken (m := ⟨_, _, footers, _, given⟩) hquiet text
  -- The text comes from this call or, if it has none, from an earlier one.
  match t, remembered with
  | some (c :: cs), _ => exact hadd (c :: cs) (some (c :: cs))
  | none, some (c :: cs) => exact hadd (c :: cs) (some (c :: cs))
  | some [], some (c :: cs) => exact hadd (c :: cs) (some (c :: cs))
  | none, none => simp [announcedText, announcement]
  | none, some [] => simp [announcedText, announcement]
  | some [], none => simp [announcedText, announcement]
  | some [], some [] => simp [announcedText, announcement]

/-- Announcing or taking back always changes what a message announces. -/
theorem isBreaking_toggleBreaking (m : Message) (t : Option Text) :
    (m.toggleBreaking t).isBreaking = !m.isBreaking := by
  cases h : m.isBreaking with
  | true =>
    rw [toggleBreaking_of_isBreaking h, Bool.not_true, isBreaking_eq_false_iff]
    refine ⟨Header.breaking_setBreaking _ _, fun f hf => ?_⟩
    simpa using (List.mem_filter.mp hf).2
  | false =>
    rw [toggleBreaking_of_not_isBreaking h, isBreaking]
    simp

/-- Taking back what was announced leaves nothing of it but the text that is remembered. -/
theorem toggleBreaking_toggleBreaking {m : Message} (h : m.isBreaking = false) (t : Option Text)
    (hheader : (m.header.setBreaking true).setBreaking false = m.header) :
    (m.toggleBreaking t).toggleBreaking none = { m with breakingText := m.announcedText t } := by
  have hon : (m.toggleBreaking t).isBreaking = true := by
    rw [isBreaking_toggleBreaking, h]
    rfl
  rw [toggleBreaking_of_isBreaking hon, quietFooters, toggleBreaking_of_not_isBreaking h]
  have hnew : (announcement (m.announcedText t)).filter (fun f => !f.isBreaking) = [] := by
    rw [List.filter_eq_nil_iff]
    intro f hf
    simp [isBreaking_of_mem_announcement hf]
  have hold : m.footers.filter (fun f => !f.isBreaking) = m.footers := quietFooters_eq_self h
  simp only [List.filter_append, hnew, hold, List.append_nil, hheader]

/-- A breaking change is announced and taken back. Every call changes what is announced; where
the emoji can be told from the subject, the second call restores the message and its written
form. -/
theorem toggleBreaking_law (m : Message) (t : Option Text) :
    (m.toggleBreaking t).isBreaking = (!m.isBreaking) ∧
      (m.isBreaking = false → Text.strip m.header.subject = m.header.subject →
        ¬ m.header.options.breakingEmoji <:+ m.header.subject →
        m.header.options.breakingEmoji ≠ [] →
        Text.strip m.header.options.breakingEmoji = m.header.options.breakingEmoji →
        ∃ r, (m.toggleBreaking t).toggleBreaking none = r ∧
          r.header.type = m.header.type ∧ r.header.nameSpace = m.header.nameSpace ∧
          r.header.scopes = m.header.scopes ∧ r.header.subject = m.header.subject ∧
          r.body = m.body ∧ r.footers = m.footers ∧ r.render = m.render) := by
  refine ⟨isBreaking_toggleBreaking m t, fun h hs hend hne he => ⟨_, rfl, ?_⟩⟩
  have hheader :=
    Header.setBreaking_setBreaking (isBreaking_eq_false_iff.mp h).1 hs hend hne he
  rw [toggleBreaking_toggleBreaking h t hheader]
  exact ⟨rfl, rfl, rfl, rfl, rfl, rfl, rfl⟩

/-- A message that announces no breaking change and has a footer. -/
def quietMessage : Message :=
  make
    (.make .standard "core".toList "feat".toList ["api".toList] "Drop the old calls".toList false)
    "Clients have moved.".toList [Footer.make "Reviewed-by".toList "Ann".toList]

theorem toggleBreaking_law_quietMessage :
    quietMessage.isBreaking = false ∧
      ((quietMessage.toggleBreaking (some "Use v2".toList)).toggleBreaking none).render =
        quietMessage.render := by
  have hquiet : quietMessage.isBreaking = false := by decide +kernel
  obtain ⟨r, hr, -, -, -, -, -, -, hrender⟩ :=
    (toggleBreaking_law quietMessage (some "Use v2".toList)).2 hquiet (by decide +kernel)
      (by decide +kernel) (by decide +kernel) (by decide +kernel)
  exact ⟨hquiet, hr ▸ hrender⟩

end Message

end CommitStandard
