import Mathlib.Tactic
import CommitStandard.Proofs.Rule.Recasing

/-!
# Converting plain words

Most letter cases are tested by letters and digits of ASCII, so that a text with other characters
may not be in a case after its conversion to it. A text of such letters and digits, with any
delimiters among them, falls into words of letters and digits, and the first of these begins with
the first of those (`LetterCase.exists_words_eq_cons`). Spelling the words leaves letters and
digits, and a letter at the beginning of the text becomes a capital or a small one as the case
wants it (`LetterCase.exists_convert_eq_join`). So a text that begins with a letter, but for its
delimiters, is in every case that it is converted to (`LetterCase.accepts_convert_of_plain`).
-/
namespace CommitStandard

namespace Text

variable {c : Char} {s : Text}

theorem toNat_lt_of_asciiAlphanumeric (h : asciiAlphanumeric c = true) : c.toNat < 128 := by
  rw [asciiAlphanumeric, asciiLetter, Bool.or_eq_true, Bool.or_eq_true, asciiLower_iff,
    asciiUpper_iff, asciiDigit_iff] at h
  omega

theorem isDelimiter_of_asciiAlphanumeric (h : asciiAlphanumeric c = true) :
    isDelimiter c = false :=
  isCaseless_isDelimiter.eq_false (by decide) h

theorem any_head?_append {p : Char → Bool} (hne : s ≠ []) (hs : ∀ d ∈ s, p d = true) (t : Text) :
    (s ++ t).head?.any p = true := by
  obtain ⟨d, s, rfl⟩ := List.exists_cons_of_ne_nil hne
  exact hs d List.mem_cons_self

end Text

namespace LetterCase

open Text

/-- A text of letters and digits of ASCII, with delimiters among them. -/
def IsPlainText (s : Text) : Prop :=
  ∀ d ∈ s, asciiAlphanumeric d = true ∨ isDelimiter d = true

instance (s : Text) : Decidable (IsPlainText s) :=
  List.decidableBAll (fun d => asciiAlphanumeric d = true ∨ isDelimiter d = true) s

variable {c : LetterCase} {first : Bool} {d : Char} {s w : Text} {ws : List Text}

section Words

theorem asciiAlphanumeric_of_mem_words (hs : IsPlainText s) (hw : w ∈ words s) (hd : d ∈ w) :
    asciiAlphanumeric d = true := by
  obtain ⟨hmem, hdelimiter⟩ := mem_of_mem_words hw hd
  exact (hs d hmem).resolve_right (by simp [hdelimiter])

/-- The first word begins with the first letter or digit. -/
theorem exists_words_eq_cons (hs : IsPlainText s) (hd : s.find? asciiAlphanumeric = some d) :
    ∃ w ws, words s = (d :: w) :: ws := by
  have hletters : undelimited s = s.filter asciiAlphanumeric := by
    refine List.filter_congr fun e he => ?_
    rcases hs e he with halpha | hdelimiter
    · rw [halpha, isDelimiter_of_asciiAlphanumeric halpha]
      rfl
    · rw [hdelimiter, eq_comm, Bool.not_true, ← Bool.not_eq_true]
      intro halpha
      exact absurd hdelimiter (by simp [isDelimiter_of_asciiAlphanumeric halpha])
  have hhead : (words s).flatten.head? = some d := by
    rw [flatten_words, hletters, List.head?_filter, hd]
  cases hwords : words s with
  | nil =>
    rw [hwords] at hhead
    cases hhead
  | cons w ws =>
    have hw : IsSolid w := isSolid_of_mem_words (by rw [hwords]; exact List.mem_cons_self)
    obtain ⟨e, w, rfl⟩ := List.exists_cons_of_ne_nil hw.ne_nil
    rw [hwords] at hhead
    obtain rfl := Option.some.inj hhead
    exact ⟨w, ws, rfl⟩

end Words

section Spelling

variable {e : Char}

theorem isPlain_of_mem_lower (hw : ∀ d ∈ w, asciiAlphanumeric d = true) (he : e ∈ Text.lower w) :
    isPlain e = true := by
  have hsigma : 'Σ' ∉ w := fun hmem => absurd (hw _ hmem) (by decide)
  rw [lower_eq_flatMap hsigma] at he
  obtain ⟨d, hd, he⟩ := List.mem_flatMap.mp he
  exact all_of_ascii (by decide) (toNat_lt_of_asciiAlphanumeric (hw d hd)) (hw d hd) e he

theorem asciiAlphanumeric_of_isPlain (h : isPlain d = true) : asciiAlphanumeric d = true := by
  rw [isPlain, Bool.or_eq_true] at h
  rcases h with h | h <;> simp [asciiAlphanumeric, asciiLetter, h]

theorem asciiAlphanumeric_of_mem_capitalize (hw : ∀ d ∈ w, asciiAlphanumeric d = true)
    (he : e ∈ capitalize w) : asciiAlphanumeric e = true := by
  cases w with
  | nil => cases he
  | cons d w =>
    rcases List.mem_append.mp he with he | he
    · have hd := hw d List.mem_cons_self
      exact all_of_ascii (by decide) (toNat_lt_of_asciiAlphanumeric hd) hd e he
    · exact hw e (List.mem_cons_of_mem d he)

/-- Words of letters and digits are spelled with letters and digits. -/
theorem asciiAlphanumeric_of_mem_spell (hupper : c ≠ upper)
    (hw : ∀ d ∈ w, asciiAlphanumeric d = true) (he : e ∈ c.spell first w) :
    asciiAlphanumeric e = true := by
  have hlower : ∀ d ∈ Text.lower w, asciiAlphanumeric d = true := fun d hd =>
    asciiAlphanumeric_of_isPlain (isPlain_of_mem_lower hw hd)
  cases c with
  | upper => exact absurd rfl hupper
  | pascal | start => exact asciiAlphanumeric_of_mem_capitalize hlower he
  | camel | sentence =>
    cases first <;>
      first | exact hlower e he | exact asciiAlphanumeric_of_mem_capitalize hlower he
  | _ => exact hlower e he

/-- A small letter at the beginning of a word that begins with a letter. -/
theorem head?_lower_of_asciiLetter (hd : asciiLetter d = true) (w : Text) :
    (Text.lower (d :: w)).head?.any asciiLower = true := by
  have halpha : asciiAlphanumeric d = true := by rw [asciiAlphanumeric, hd, Bool.true_or]
  have hsigma : d ≠ 'Σ' := by
    rintro rfl
    exact absurd hd (by decide)
  rw [Text.lower, lowerAfter, if_neg hsigma]
  exact any_head?_append (lowerChar_ne_nil d)
    (all_of_ascii (by decide) (toNat_lt_of_asciiAlphanumeric halpha) hd) _

/-- A capital letter at the beginning of a word that begins with a letter. -/
theorem head?_titled_of_asciiLetter (hd : asciiLetter d = true) (w : Text) :
    (titled (d :: w)).head?.any asciiUpper = true := by
  have hlower := head?_lower_of_asciiLetter hd w
  rw [titled]
  cases h : Text.lower (d :: w) with
  | nil =>
    rw [h] at hlower
    cases hlower
  | cons e v =>
    rw [h] at hlower
    have hsmall : asciiLower e = true := hlower
    have halpha : asciiAlphanumeric e = true := by
      rw [asciiAlphanumeric, asciiLetter, hsmall, Bool.true_or, Bool.true_or]
    exact any_head?_append (upperChar_ne_nil e)
      (all_of_ascii (by decide) (toNat_lt_of_asciiAlphanumeric halpha) hsmall) v

end Spelling

section Accepting

/-- The letter that a case wants at the beginning. -/
def opening : LetterCase → Char → Bool
  | pascal | sentence | start => asciiUpper
  | _ => asciiLower

theorem head?_spell (hupper : c ≠ upper) (hd : asciiLetter d = true) (w : Text) :
    (c.spell true (d :: w)).head?.any c.opening = true := by
  cases c with
  | upper => exact absurd rfl hupper
  | pascal | sentence | start => exact head?_titled_of_asciiLetter hd w
  | _ => exact head?_lower_of_asciiLetter hd w

theorem headed_of_head? {p q : Char → Bool} (hhead : s.head?.any p = true)
    (hs : ∀ d ∈ s, q d = true) : headed p q s = true := by
  cases s with
  | nil => cases hhead
  | cons d s =>
    rw [headed, Bool.and_eq_true, List.all_eq_true]
    exact ⟨hhead, fun e he => hs e (List.mem_cons_of_mem d he)⟩

/-- Words of small letters and digits with separators between them. -/
theorem isJoined_join {sep : Char} (hsep : isPlain sep = false)
    (hhead : w.head?.any asciiLower = true)
    (hplain : ∀ v ∈ w :: ws, v ≠ [] ∧ ∀ d ∈ v, isPlain d = true) :
    isJoined sep (join [sep] (w :: ws)) = true := by
  have hpieces : pieces sep (join [sep] (w :: ws)) = w :: ws := by
    refine pieces_join (fun v hv hmem => ?_) (by simp)
    exact absurd ((hplain v hv).2 sep hmem) (by simp [hsep])
  simp only [isJoined, hpieces, Bool.and_eq_true, List.all_eq_true]
  refine ⟨headed_of_head? hhead (hplain w List.mem_cons_self).2, fun v hv => ?_⟩
  obtain ⟨hne, hall⟩ := hplain v (List.mem_cons_of_mem w hv)
  obtain ⟨d, v, rfl⟩ := List.exists_cons_of_ne_nil hne
  exact headed_of_head? (hall d List.mem_cons_self) hall

/-- The cases that take a text apart begin with a letter as they want it, and spell words of
letters and digits. -/
theorem exists_convert_eq_join (hlower : c ≠ lower) (hupper : c ≠ upper) (hs : IsPlainText s)
    (hfirst : (s.find? asciiAlphanumeric).any asciiLetter = true) :
    ∃ v vs, c.convert s = join c.joiner (v :: vs) ∧ v.head?.any c.opening = true ∧
      ∀ u ∈ v :: vs, ∃ first w, c.spell first w = u ∧ Text.IsSolid w ∧
        ∀ d ∈ w, asciiAlphanumeric d = true := by
  obtain ⟨d, hd, hletter⟩ := (Option.any_eq_true _ _).mp hfirst
  obtain ⟨w, ws, hwords⟩ := exists_words_eq_cons hs hd
  have hword : ∀ u ∈ (d :: w) :: ws, Text.IsSolid u ∧ ∀ e ∈ u, asciiAlphanumeric e = true := by
    rw [← hwords]
    exact fun u hu => ⟨isSolid_of_mem_words hu, fun e => asciiAlphanumeric_of_mem_words hs hu⟩
  refine ⟨c.spell true (d :: w), ws.map (c.spell false), ?_, head?_spell hupper hletter w, ?_⟩
  · rw [convert_eq_join hlower hupper fun _ hnil => absurd (hwords.symm.trans hnil) (by simp),
      hwords]
    rfl
  · intro u hu
    rcases List.mem_cons.mp hu with rfl | hu
    · exact ⟨true, d :: w, rfl, hword _ List.mem_cons_self⟩
    · obtain ⟨x, hx, rfl⟩ := List.mem_map.mp hu
      exact ⟨false, x, rfl, hword x (List.mem_cons_of_mem _ hx)⟩

/-- A text of letters and digits of ASCII, with delimiters among them and a letter before all
digits, is converted to each case as its test wants it. -/
theorem accepts_convert_of_plain (c : LetterCase) (hs : IsPlainText s)
    (hfirst : (s.find? asciiAlphanumeric).any asciiLetter = true) :
    c.accepts (c.convert s) = true := by
  by_cases hcertain : c = lower ∨ c = upper ∨ c = start
  · rcases hcertain with rfl | rfl | rfl <;> exact accepts_convert rfl s
  simp only [not_or] at hcertain
  obtain ⟨hlower, hupper, hstart⟩ := hcertain
  obtain ⟨v, vs, hconvert, hhead, hspelled⟩ := exists_convert_eq_join hlower hupper hs hfirst
  have hsolid : ∀ u ∈ v :: vs, Text.IsSolid u := by
    intro u hu
    obtain ⟨first, w, rfl, hw, -⟩ := hspelled u hu
    exact isSolid_spell hw first
  have hopening : (join c.joiner (v :: vs)).head?.any c.opening = true := by
    rwa [head?_join (hsolid v List.mem_cons_self).ne_nil]
  have hmem : ∀ e ∈ join c.joiner (v :: vs), e ∈ c.joiner ∨ asciiAlphanumeric e = true := by
    intro e he
    refine (mem_join he).imp_right fun ⟨u, hu, he⟩ => ?_
    obtain ⟨first, w, rfl, -, hw⟩ := hspelled u hu
    exact asciiAlphanumeric_of_mem_spell hupper hw he
  rw [hconvert]
  cases c with
  | lower => exact absurd rfl hlower
  | upper => exact absurd rfl hupper
  | start => exact absurd rfl hstart
  | camel | pascal =>
    rw [accepts, Bool.or_eq_true]
    exact Or.inr (headed_of_head? hopening fun e he => (hmem e he).resolve_left List.not_mem_nil)
  | sentence =>
    rw [accepts, Bool.or_eq_true]
    refine Or.inr (headed_of_head? hopening fun e he => ?_)
    rcases hmem e he with hspace | halpha
    · rw [List.mem_singleton.mp hspace]
      rfl
    · exact forall_ascii (p := fun e => asciiAlphanumeric e = true →
        (e != '.' && e != '!' && e != '?') = true) (by decide)
        (toNat_lt_of_asciiAlphanumeric halpha) halpha
  | kebab | snake =>
    rw [accepts, Bool.or_eq_true]
    refine Or.inr (isJoined_join rfl hhead fun u hu => ⟨(hsolid u hu).ne_nil, fun e he => ?_⟩)
    obtain ⟨first, w, rfl, -, hw⟩ := hspelled u hu
    exact isPlain_of_mem_lower hw he

/-- A text with humps, digits and runs of delimiters. -/
def mixedText : Text := "--\tmyHTTP2_server  V10-".toList

theorem accepts_convert_of_plain_mixedText :
    IsPlainText mixedText ∧ (mixedText.find? asciiAlphanumeric).any asciiLetter = true ∧
      snake.convert mixedText = "my_http_2_server_v_10".toList ∧
      snake.accepts (snake.convert mixedText) = true :=
  ⟨by decide, by decide, by rfl,
    accepts_convert_of_plain snake (by decide) (by decide)⟩

end Accepting

end LetterCase

end CommitStandard
