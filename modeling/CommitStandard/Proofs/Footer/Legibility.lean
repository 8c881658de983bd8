import Mathlib.Tactic
import CommitStandard.Proofs.Footer.Spelling
import CommitStandard.Proofs.Text.Letters

/-!
# Which footers are read again

A token is put in its normal spelling when its line is read, and written in that spelling. The
spelling of a token is a token again exactly if `KeepsToken` holds: a token of hyphens and
underscores is lost, the capital I with a dot and a first letter without a capital form of its
own leave combining marks behind, and nothing else goes wrong (`isToken_normalizeToken_iff`).
So the line that a footer is read from tells whether the footer can be read back
(`parse_plain_of_parse`).
-/
namespace CommitStandard

namespace Text

variable {s : Text} {c : Char}

theorem mem_undelimited : c ∈ undelimited s ↔ c ∈ s ∧ isDelimiter c = false := by
  simp [undelimited]

theorem mem_join_words_iff (hc : isDelimiter c = false) : c ∈ join ['-'] (words s) ↔ c ∈ s := by
  have h : c ∈ undelimited (join ['-'] (words s)) ↔ c ∈ undelimited s := by
    rw [undelimited_join_words]
  simpa only [mem_undelimited, hc, and_true] using h

/-- The words of a text begin with its first character that is no delimiter. -/
theorem head?_join_words (s : Text) : (join ['-'] (words s)).head? = (undelimited s).head? := by
  have hspaced : IsSpaced (join ['-'] (words s)) := isSpaced_join fun _ => isSolid_of_mem_words
  rw [← undelimited_join_words]
  cases h : join ['-'] (words s) with
  | nil => rfl
  | cons c rest =>
    have hc : isDelimiter c = false := hspaced.head c (by rw [h]; rfl)
    rw [undelimited, List.filter_cons_of_pos (by simp [hc])]
    rfl

/-- A letter without a capital form of its own stays at the beginning, and comes there in no other
way. -/
theorem head?_kebab_iff (hc : hasMarkedCapital c = true) :
    (kebab s).head? = some c ↔ (undelimited s).head? = some c := by
  rw [← head?_join_words, kebab]
  cases join ['-'] (words s) with
  | nil => rfl
  | cons d rest =>
    constructor
    · intro h
      rw [eq_of_head?_lower h hc]
      rfl
    · intro h
      obtain rfl := Option.some.inj h
      exact head?_lower_of_hasMarkedCapital hc

theorem sentenceKebab_eq_nil_iff : sentenceKebab s = [] ↔ undelimited s = [] := by
  have hlower := length_le_length_lowerAfter false (join ['-'] (words s))
  have hcapital := length_le_length_capitalize (kebab s)
  rw [← List.head?_eq_none_iff (l := undelimited s), ← head?_join_words, List.head?_eq_none_iff]
  constructor
  · intro h
    rw [← sentenceKebab, h] at hcapital
    exact List.length_eq_zero_iff.mp (Nat.le_zero.mp (hlower.trans hcapital))
  · intro h
    rw [sentenceKebab, kebab, h]
    rfl

/-- The dot over a capital I is left on its own. -/
theorem dot_mem_sentenceKebab (h : 'İ' ∈ s) : '\u0307' ∈ sentenceKebab s := by
  have hlower : '\u0307' ∈ kebab s :=
    mem_lower_of_mem ((mem_join_words_iff (by decide)).mpr h) (by decide) (by decide)
  rw [sentenceKebab]
  cases hk : kebab s with
  | nil =>
    rw [hk] at hlower
    exact hlower
  | cons c rest =>
    rw [hk] at hlower
    rcases List.mem_cons.mp hlower with rfl | hrest
    · exact List.mem_append_left _ (by decide)
    · exact List.mem_append_right _ hrest

end Text

namespace Footer

open CommitStandard.Text

/-- What a token must be for its normal spelling to be a token. -/
structure KeepsToken (t : Text) : Prop where
  worded : undelimited t ≠ []
  undotted : 'İ' ∉ t
  unmarked : ∀ c, (undelimited t).head? = some c → hasMarkedCapital c = false

instance (t : Text) : Decidable (KeepsToken t) :=
  decidable_of_iff (undelimited t ≠ [] ∧ 'İ' ∉ t ∧
      (undelimited t).head?.all (fun c => !hasMarkedCapital c) = true) (by
    simp only [Option.all_eq_true, Bool.not_eq_true']
    exact ⟨fun h => ⟨h.1, h.2.1, h.2.2⟩, fun h => ⟨h.worded, h.undotted, h.unmarked⟩⟩)

variable {t : Text}

section Casing

variable (ht : ∀ c ∈ t, isTokenChar c = true)

include ht

/-- The joined words of a token have nothing but its word characters and hyphens. -/
theorem isWord_or_eq_hyphen_of_mem_join_words {c : Char} (hc : c ∈ join ['-'] (words t)) :
    isWord c = true ∧ c ∈ t ∨ c = '-' := by
  by_cases hd : isDelimiter c = false
  · have hmem := (mem_join_words_iff hd).mp hc
    refine (Bool.or_eq_true_iff.mp (ht c hmem)).imp (fun hw => ⟨hw, hmem⟩) fun hh => ?_
    exact of_decide_eq_true hh
  · rcases mem_join hc with hc | ⟨w, hw, hc⟩
    · exact Or.inr (List.mem_singleton.mp hc)
    · exact absurd (mem_of_mem_words hw hc).2 hd

/-- Lower case leaves token characters but for the dot over a letter. -/
theorem isTokenChar_of_mem_kebab (hdot : 'İ' ∉ t) {d : Char} (hd : d ∈ kebab t) :
    isTokenChar d = true := by
  rcases exists_of_mem_lower hd with rfl | rfl | ⟨c, hc, hd⟩
  · decide
  · decide
  · rcases isWord_or_eq_hyphen_of_mem_join_words ht hc with ⟨hword, hmem⟩ | rfl
    · have hne : c ≠ 'İ' := fun h => hdot (h ▸ hmem)
      rw [isTokenChar, isWord_of_mem_lowerChar hword hne hd, Bool.true_or]
    · rw [List.mem_singleton.mp hd]
      rfl

theorem isTokenChar_of_mem_sentenceKebab (hdot : 'İ' ∉ t)
    (hhead : ∀ c, (undelimited t).head? = some c → hasMarkedCapital c = false) {d : Char}
    (hd : d ∈ sentenceKebab t) : isTokenChar d = true := by
  rw [sentenceKebab] at hd
  cases hk : kebab t with
  | nil =>
    rw [hk] at hd
    simp [capitalize] at hd
  | cons c rest =>
    have hall : ∀ d ∈ c :: rest, isTokenChar d = true := fun d hd =>
      isTokenChar_of_mem_kebab ht hdot (hk ▸ hd)
    have hcapital : hasMarkedCapital c = false := by
      rw [← Bool.not_eq_true]
      intro hc
      have hfirst : (undelimited t).head? = some c := (head?_kebab_iff hc).mp (by rw [hk]; rfl)
      exact absurd hc (by simp [hhead c hfirst])
    rw [hk] at hd
    rcases List.mem_append.mp hd with hd | hd
    · rcases Bool.or_eq_true_iff.mp (hall c List.mem_cons_self) with hword | hhyphen
      · rw [isTokenChar, isWord_of_mem_upperChar hword hcapital hd, Bool.true_or]
      · rw [of_decide_eq_true hhyphen] at hd
        rw [List.mem_singleton.mp hd]
        rfl
    · exact hall d (List.mem_cons_of_mem c hd)

end Casing

/-- The capital form of a letter is not of token characters either. -/
theorem exists_mem_upperChar {c : Char} (h : hasMarkedCapital c = true) :
    ∃ d ∈ upperChar c, isTokenChar d = false := by
  simp only [hasMarkedCapital, Bool.and_eq_true, Bool.not_eq_true', List.all_eq_false] at h
  obtain ⟨hword, d, hd, hmark⟩ := h
  refine ⟨d, hd, ?_⟩
  rw [isTokenChar, Bool.or_eq_false_iff]
  refine ⟨by simpa using hmark, decide_eq_false ?_⟩
  -- upper case makes no hyphen of another character
  rintro rfl
  exact hmark (isCaseless_isDelimiter.eq_of_mem_upperChar hd rfl ▸ hword)

theorem isTokenChar_of_mem_sentenceKebab_iff (ht : ∀ c ∈ t, isTokenChar c = true) :
    (∀ d ∈ sentenceKebab t, isTokenChar d = true) ↔
      'İ' ∉ t ∧ ∀ c, (undelimited t).head? = some c → hasMarkedCapital c = false := by
  constructor
  · intro h
    refine ⟨fun hdot => ?_, fun c hc => ?_⟩
    · exact absurd (h _ (dot_mem_sentenceKebab hdot)) (by decide)
    · rw [← Bool.not_eq_true]
      intro hcapital
      obtain ⟨rest, hrest⟩ := List.head?_eq_some_iff.mp ((head?_kebab_iff hcapital).mpr hc)
      obtain ⟨d, hd, hchar⟩ := exists_mem_upperChar hcapital
      have hmem : d ∈ sentenceKebab t := by
        rw [sentenceKebab, hrest]
        exact List.mem_append_left _ hd
      exact absurd (h d hmem) (by simp [hchar])
  · rintro ⟨hdot, hhead⟩ d hd
    exact isTokenChar_of_mem_sentenceKebab ht hdot hhead hd

/-- A token is spelled in its kebab form, unless it announces a breaking change. -/
theorem normalizeToken_of_isToken (ht : IsToken t) (hb : t ∉ breakingTokens) :
    (∀ c ∈ t, isTokenChar c = true) ∧ normalizeToken t = sentenceKebab t := by
  obtain ⟨hne, hchars⟩ : t ≠ [] ∧ ∀ c ∈ t, isTokenChar c = true :=
    ht.resolve_left fun h => hb (h ▸ List.mem_cons_self)
  refine ⟨hchars, ?_⟩
  have hstrip : strip t = t := strip_eq_self_of_forall fun c hc => by
    have hsign := isSign_of_isTokenChar (hchars c hc)
    simp only [isSign, Bool.or_eq_false_iff] at hsign
    exact hsign.1.1
  rw [normalizeToken_eq, hstrip, if_pos]
  simpa [isOrdinary, hne] using ⟨hb, hchars⟩

theorem keepsToken_of_mem_breakingTokens (hb : t ∈ breakingTokens) :
    IsToken (normalizeToken t) ∧ KeepsToken t := by
  simp only [breakingTokens, List.mem_cons, List.not_mem_nil, or_false] at hb
  rcases hb with rfl | rfl
  · decide
  · decide

/-- The normal spelling of a token is a token again exactly if the token is such. -/
theorem isToken_normalizeToken_iff (ht : IsToken t) :
    IsToken (normalizeToken t) ↔ KeepsToken t := by
  by_cases hb : t ∈ breakingTokens
  · simp only [keepsToken_of_mem_breakingTokens hb]
  obtain ⟨hchars, hspelling⟩ := normalizeToken_of_isToken ht hb
  have hspace : sentenceKebab t ≠ breakingToken := by
    intro h
    have hmem : ' ' ∈ t := mem_of_mem_sentenceKebab (h ▸ by decide) (by decide)
    exact absurd (hchars ' ' hmem) (by decide)
  rw [hspelling, IsToken, or_iff_right hspace, isTokenChar_of_mem_sentenceKebab_iff hchars, Ne,
    sentenceKebab_eq_nil_iff]
  exact ⟨fun h => ⟨h.1, h.2.1, h.2.2⟩, fun h => ⟨h.worded, h.undotted, h.unmarked⟩⟩

theorem normalizeToken_eq_nil_iff (ht : IsToken t) :
    normalizeToken t = [] ↔ undelimited t = [] := by
  by_cases hb : t ∈ breakingTokens
  · obtain ⟨htoken, hkeeps⟩ := keepsToken_of_mem_breakingTokens hb
    have hne : normalizeToken t ≠ [] := fun h => absurd (h ▸ htoken) (by decide)
    simp only [hne, hkeeps.worded]
  · rw [(normalizeToken_of_isToken ht hb).2, sentenceKebab_eq_nil_iff]

/-- What stands before the first colon of a line. -/
def lineToken (line : Text) : Text := (strip line).takeWhile (· ≠ ':')

/-- The token of a footer that is read is not empty exactly if the token of its line is not only
of hyphens and underscores. The footer is read again from its own line exactly if the token of the
first line is kept by its spelling, and then it has the same text. -/
theorem parse_plain_of_parse {line : Text} {f : Footer} (h : parse line = .ok f) :
    (f.token ≠ [] ↔ undelimited (lineToken line) ≠ []) ∧
      ((∃ g, parse f.plain = .ok g) ↔ KeepsToken (lineToken line)) ∧
      ∀ g, parse f.plain = .ok g → g.text = f.text := by
  have htidy : f.Tidy := tidy_of_parse h
  obtain ⟨token, rest, text, ht, hline, -, rfl⟩ := parse_eq_ok_iff.mp h
  have htoken : lineToken line = token := by
    rw [lineToken, hline, List.takeWhile_append_of_pos, List.takeWhile_cons_of_neg (by simp),
      List.append_nil]
    intro c hc
    rw [decide_eq_true_iff]
    rintro rfl
    exact ht.colon_notMem hc
  simp only [htoken, htidy.parse_plain_iff]
  refine ⟨not_congr (normalizeToken_eq_nil_iff ht), ?_, ?_⟩
  · rw [← isToken_normalizeToken_iff ht]
    exact ⟨fun ⟨_, hg⟩ => hg.1, fun hg => ⟨_, hg, rfl⟩⟩
  · rintro g ⟨-, rfl⟩
    exact htidy.text_trimmed

/-- A sign-off is read again. -/
theorem parse_plain_of_parse_signOff :
    ∃ f, parse "signed_off-by: Jane".toList = .ok f ∧ f.token = "Signed-off-by".toList ∧
      ∃ g, parse f.plain = .ok g ∧ g.text = "Jane".toList := by
  obtain ⟨f, hf, htoken, htext⟩ : ∃ f, parse "signed_off-by: Jane".toList = .ok f ∧
      f.token = "Signed-off-by".toList ∧ f.text = "Jane".toList :=
    ⟨make "signed_off-by".toList "Jane".toList, rfl, by decide +kernel, by decide +kernel⟩
  obtain ⟨-, hreadable, hkept⟩ := parse_plain_of_parse hf
  obtain ⟨g, hg⟩ := hreadable.mpr (by decide +kernel)
  exact ⟨f, hf, htoken, g, hg, (hkept g hg).trans htext⟩

/-- No word is left of a lone hyphen, and the line without a token is no footer. -/
theorem parse_plain_hyphen :
    ∃ f, parse "-: x".toList = .ok f ∧ f.token = [] ∧ f.plain = ": x".toList ∧
      ¬∃ g, parse f.plain = .ok g := by
  refine ⟨make ['-'] "x".toList, rfl, by decide +kernel, by decide +kernel, ?_⟩
  rintro ⟨g, hg⟩
  have htidy : (make ['-'] "x".toList).Tidy := tidy_make (by decide) (by decide)
  exact absurd (htidy.parse_plain_iff.mp hg).1 (by decide +kernel)

end Footer

end CommitStandard
