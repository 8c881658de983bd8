import Mathlib.Tactic
import CommitStandard.Proofs.Rule.Strict
import CommitStandard.Proofs.Text.Characters
import CommitStandard.Proofs.Text.Clusters
import CommitStandard.Settings.Basic

/-!
# What the default rules leave

The rules on a subject repair it one after the other: full stops are taken off, it
is written in sentence case, and it is cut to a width. The last step and the
trimming that follows come after the least length has been tested, so that a
repaired subject meets the rules again exactly if it still has that length
(`isSome_leaveAll?_strip`). A type is left as it is, and a body has lines that
fit.
-/
namespace CommitStandard

/-- What an entry says does not depend on the coercions where it is written in the plain way. -/
theorem Setting.ofEntry?_entry (c : Coercions) (a : Applicability) (value : Option Value) :
    Setting.ofEntry? c (.given (entry a value)) = some ⟨.error, a, value.getD .null⟩ := by
  cases value <;> simp [entry, ofEntry?, Entry.value?, ofItems?]

def typeTests : List (Applicability × Test) := [(.always, .enum commitTypes), (.never, .empty)]

/-- The default tests of a subject, in the order in which they repair it. -/
def subjectTests : List (Applicability × Test) :=
  [(.never, .empty), (.never, .fullStop ['.']), (.always, .letterCase [.sentence]),
    (.always, .minLength 5), (.always, .maxLength 60)]

def bodyTests : List (Applicability × Test) := [(.always, .maxLineLength 72)]

theorem Test.removeStops_isPrefix (stop s : Text) : removeStops stop s <+: s := by
  fun_induction removeStops stop s with
  | case1 s h hlt ih => exact ih.trans (List.take_prefix _ s)
  | case2 s h => exact List.prefix_refl s

namespace LetterCase

/-- Whether a text begins with a capital letter and has no mark that ends a sentence. -/
def isSentence (s : Text) : Bool :=
  headed Text.asciiUpper (fun c => c != '.' && c != '!' && c != '?') s

theorem isSentence_of_isPrefix {s t : Text} (hs : isSentence s = true) (ht : t <+: s)
    (hne : t ≠ []) : isSentence t = true := by
  obtain ⟨c, t, rfl⟩ := List.exists_cons_of_ne_nil hne
  obtain ⟨u, rfl⟩ := ht
  simp only [isSentence, headed, List.cons_append, Bool.and_eq_true, List.all_append] at hs ⊢
  exact ⟨hs.1, hs.2.1⟩

theorem ne_nil_of_isSentence {s : Text} (hs : isSentence s = true) : s ≠ [] := by
  rintro rfl
  exact absurd hs (by decide)

theorem stop_notMem_of_isSentence {s : Text} (hs : isSentence s = true) : '.' ∉ s := by
  obtain ⟨c, s, rfl⟩ := List.exists_cons_of_ne_nil (ne_nil_of_isSentence hs)
  simp only [isSentence, headed, Bool.and_eq_true, List.all_eq_true] at hs
  intro hmem
  rcases List.mem_cons.mp hmem with rfl | hmem
  · exact absurd hs.1 (by decide)
  · exact absurd (hs.2 '.' hmem) (by decide)

theorem isBlank_head_of_isSentence {s : Text} (hs : isSentence s = true) {c : Char}
    (hc : s.head? = some c) : Text.isBlank c = false := by
  obtain ⟨d, s, rfl⟩ := List.exists_cons_of_ne_nil (ne_nil_of_isSentence hs)
  obtain rfl := Option.some.inj hc
  simp only [isSentence, headed, Bool.and_eq_true] at hs
  have hsign := Text.isCaseless_isSign.eq_false (by decide : ∀ n ∈ Text.signCodes,
    Text.asciiUpper (Char.ofNat n) = false) hs.1
  rw [← Bool.not_eq_true]
  intro hblank
  exact absurd (Text.isSign_of_isBlank hblank) (by simp [hsign])

/-- Sentence case makes no sign of another character. -/
theorem mem_of_mem_sentence {s : Text} {c : Char} (hc : c ∈ LetterCase.sentence.convert s)
    (hs : Text.isSign c = true) (hne : c ≠ ' ') : c ∈ s := by
  have hjoin : c ∈ Text.join [' '] (Text.words s) :=
    Text.isCaseless_isSign.mem_of_mem_lower
      (Text.isCaseless_isSign.mem_of_mem_capitalize hc hs) hs
  rcases Text.mem_join hjoin with hc | ⟨w, hw, hc⟩
  · exact absurd (List.mem_singleton.mp hc) hne
  · exact (Text.mem_of_mem_words hw hc).1

end LetterCase

open LetterCase

theorem leaveAll?_typeTests_iff {fix : Bool} {s t : Text} :
    leaveAll? fix typeTests s = some t ↔ s ∈ commitTypes ∧ t = s := by
  have henum : Test.repair? (.enum commitTypes) .always = none := rfl
  have hempty : Test.repair? .empty .never = none := rfl
  have hmem : Test.met .always (.enum commitTypes) s = true ∧ Test.met .never .empty s = true ↔
      s ∈ commitTypes := by
    cases s with
    | nil => decide
    | cons c s =>
      have hfilled : c :: s ∈ commitTypes → Text.isBlankText (c :: s) = false := by
        have hall : ∀ t ∈ commitTypes, Text.isBlankText t = false := by decide
        exact hall _
      simp [Test.met, Test.holds]
      exact hfilled
  rw [typeTests, leaveAll?, Option.bind_eq_some_iff, ← hmem]
  constructor
  · rintro ⟨u, hu, ht⟩
    obtain ⟨hu, rfl⟩ := (leave?_of_repair?_eq_none (Or.inr henum)).mp hu
    rw [leaveAll?, Option.bind_eq_some_iff] at ht
    obtain ⟨v, hv, ht⟩ := ht
    obtain ⟨hv, rfl⟩ := (leave?_of_repair?_eq_none (Or.inr hempty)).mp hv
    exact ⟨⟨hu, hv⟩, (Option.some.inj ht).symm⟩
  · rintro ⟨⟨hu, hv⟩, rfl⟩
    refine ⟨t, (leave?_of_repair?_eq_none (Or.inr henum)).mpr ⟨hu, rfl⟩, ?_⟩
    rw [leaveAll?, (leave?_of_repair?_eq_none (Or.inr hempty)).mpr ⟨hv, rfl⟩]
    rfl

theorem isSentence_of_met {s : Text} (h : Test.met .always (.letterCase [.sentence]) s = true)
    (hne : s ≠ []) : isSentence s = true := by
  have hfilled : s.isEmpty = false := by simpa using hne
  simpa [Test.met, Test.holds, hfilled, accepts, isSentence] using h

/-- A repaired subject is the beginning of a sentence, and not too long. -/
theorem leaveAll?_subjectTests_spec {s t : Text} (h : leaveAll? true subjectTests s = some t) :
    ∃ u, t <+: u ∧ isSentence u = true ∧ t.length ≤ 60 ∧ ('\n' ∈ t → '\n' ∈ s) := by
  simp only [subjectTests, leaveAll?, Option.bind_eq_some_iff, Option.some.injEq] at h
  -- The first and the fourth test have no repair and hand the value on as it is.
  obtain ⟨s₁, h₁, s₂, h₂, s₃, h₃, s₄, h₄, s₅, h₅, rfl⟩ := h
  obtain ⟨-, rfl⟩ := (leave?_of_repair?_eq_none (Or.inr rfl)).mp h₁
  obtain ⟨hlength, rfl⟩ := (leave?_of_repair?_eq_none (Or.inr rfl)).mp h₄
  have hfilled : s₄ ≠ [] := by
    rintro rfl
    exact absurd hlength (by decide)
  have hstops : s₂ <+: s₁ := by
    rcases leave?_true_of_repair? rfl h₂ with ⟨rfl, -⟩ | ⟨hrepair, -⟩
    · exact List.prefix_refl s₂
    · rw [← Except.ok.inj hrepair]
      exact Test.removeStops_isPrefix ['.'] s₁
  have hcase : '\n' ∈ s₄ → '\n' ∈ s₂ := by
    intro hn
    rcases leave?_true_of_repair? rfl h₃ with ⟨rfl, -⟩ | ⟨hrepair, -⟩
    · exact hn
    · rw [← Except.ok.inj hrepair] at hn
      exact mem_of_mem_sentence hn (by decide) (by decide)
  have hcut : s₅ <+: s₄ := by
    rcases leave?_true_of_repair? rfl h₅ with ⟨rfl, -⟩ | ⟨hrepair, -⟩
    · exact List.prefix_refl s₅
    · rw [← Except.ok.inj hrepair]
      exact Text.truncate_isPrefix s₄ 60
  refine ⟨s₄, hcut, isSentence_of_met (met_of_leave? h₃) hfilled, ?_, ?_⟩
  · simpa [Test.met, Test.holds] using met_of_leave? h₅
  · intro hn
    exact hstops.subset (hcase (hcut.subset hn))

/-- A sentence meets the tests of a subject if its length does. -/
theorem met_subjectTests_of_isSentence {s : Text} (hs : isSentence s = true)
    (hmin : 5 ≤ s.length) (hmax : s.length ≤ 60) (hstrip : Text.strip s = s) :
    ∀ t ∈ subjectTests, t.2.met t.1 s = true := by
  have hne := ne_nil_of_isSentence hs
  have hfilled : s.isEmpty = false := by simpa using hne
  have hempty : Test.met .never .empty s = true := by
    simp [Test.met, Test.holds, Text.isBlankText_eq_false hstrip hne]
  have hstop : Test.met .never (.fullStop ['.']) s = true := by
    have hnot : ¬['.'].isSuffixOf s = true := by
      intro hsuffix
      have hsub := (List.isSuffixOf_iff_suffix.mp hsuffix).subset
      exact stop_notMem_of_isSentence hs (hsub List.mem_cons_self)
    simp [Test.met, Test.holds, hfilled, hnot]
  have hcase : Test.met .always (.letterCase [.sentence]) s = true := by
    have haccepts : LetterCase.accepts .sentence s = true := by
      rw [accepts, Bool.or_eq_true]
      exact Or.inr hs
    simp [Test.met, Test.holds, hfilled, haccepts]
  have hleast : Test.met .always (.minLength 5) s = true := by
    simp [Test.met, Test.holds, hmin]
  have hmost : Test.met .always (.maxLength 60) s = true := by
    simp [Test.met, Test.holds, hmax]
  intro t ht
  simp only [subjectTests, List.mem_cons, List.not_mem_nil, or_false] at ht
  rcases ht with rfl | rfl | rfl | rfl | rfl
  · exact hempty
  · exact hstop
  · exact hcase
  · exact hleast
  · exact hmost

/-- A repaired subject, trimmed, meets the rules exactly if it has kept the least length. -/
theorem isSome_leaveAll?_strip {s t : Text} (h : leaveAll? true subjectTests s = some t) :
    (leaveAll? false subjectTests (Text.strip t)).isSome = true ↔ 5 ≤ (Text.strip t).length := by
  obtain ⟨u, hu, hsentence, hlength, -⟩ := leaveAll?_subjectTests_spec h
  rw [isSome_leaveAll?_false_iff]
  constructor
  · intro hmet
    have hleast := hmet (.always, .minLength 5) (by simp [subjectTests])
    simpa [Test.met, Test.holds] using hleast
  · intro hmin
    have ht : t ≠ [] := by
      rintro rfl
      exact absurd hmin (by decide)
    have hts := isSentence_of_isPrefix hsentence hu ht
    have hbegins : Text.strip t <+: t := by
      rw [Text.strip_eq_trimEnds, Text.trimEnds,
        Text.dropWhile_eq_self fun c => isBlank_head_of_isSentence hts]
      exact List.rdropWhile_prefix _ _
    have hne : Text.strip t ≠ [] := by
      intro h0
      rw [h0] at hmin
      exact absurd hmin (by decide)
    exact met_subjectTests_of_isSentence (isSentence_of_isPrefix hts hbegins hne) hmin
      ((Text.length_strip_le t).trans hlength) (Text.strip_strip t)

theorem isSome_leaveAll?_bodyTests_iff {s : Text} :
    (leaveAll? false bodyTests s).isSome = true ↔ Text.linesFit 72 s = true := by
  rw [isSome_leaveAll?_false_iff]
  simp [bodyTests, Test.met, Test.holds]

theorem linesFit_of_leaveAll? {s t : Text} (h : leaveAll? true bodyTests s = some t) :
    Text.linesFit 72 t = true := by
  simp only [bodyTests, leaveAll?, Option.bind_eq_some_iff, Option.some.injEq] at h
  obtain ⟨u, hu, rfl⟩ := h
  simpa [Test.met, Test.holds] using met_of_leave? hu

end CommitStandard
