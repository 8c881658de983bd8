import Mathlib.Tactic
import CommitStandard.Proofs.Engine.Dependability
import CommitStandard.Proofs.Text.Casing

/-!
# Converting to a letter case twice

All cases but lower and upper case take a text apart into words, spell every word and join the
words again (`LetterCase.convert_eq_join`). What they make of a text stays as it is exactly if it
is settled: its words are read as they were joined, so that none begins inside of another, and
they are spelled already (`LetterCase.convert_convert_iff`). A second repair by a rule that
demands a case therefore changes nothing exactly if each of its values is in one of the demanded
cases or settled. This is so for all values only where every conversion is in one of the demanded
cases, and so it is with lower, upper and start case (`Rule.fix_fix_letterCase`).
-/
namespace CommitStandard

namespace LetterCase

variable {c d : LetterCase} {s t w : Text} {ws : List Text}

/-- What a case writes between words. -/
def joiner : LetterCase → Text
  | kebab => ['-']
  | snake => ['_']
  | sentence | start => [' ']
  | _ => []

/-- How a case spells a word, the first one or another. -/
def spell : LetterCase → (first : Bool) → Text → Text
  | upper, _ => Text.upper
  | pascal, _ | start, _ | camel, false | sentence, true => titled
  | _, _ => Text.lower

def spelled (c : LetterCase) : List Text → List Text
  | [] => []
  | w :: ws => c.spell true w :: ws.map (c.spell false)

section Spelling

theorem spelled_eq_map (h : c.spell true = c.spell false) (ws : List Text) :
    c.spelled ws = ws.map (c.spell false) := by
  cases ws with
  | nil => rfl
  | cons w ws => rw [spelled, h, List.map_cons]

theorem exists_joiner_eq (h : c.joiner ≠ []) : ∃ d, c.joiner = [d] := by
  cases c <;> first | exact absurd rfl h | exact ⟨_, rfl⟩

theorem length_le_length_spell (c : LetterCase) (first : Bool) (w : Text) :
    w.length ≤ (c.spell first w).length := by
  have hlower := Text.length_le_length_lowerAfter false w
  have htitled := hlower.trans (Text.length_le_length_capitalize (Text.lower w))
  cases c with
  | upper => exact Text.length_le_length_upper w
  | pascal | start => exact htitled
  | camel | sentence => cases first <;> first | exact hlower | exact htitled
  | _ => exact hlower

/-- Words are spelled by no fewer characters. -/
theorem forall₂_spelled (c : LetterCase) (ws : List Text) :
    List.Forall₂ (fun w v : Text => w.length ≤ v.length) ws (c.spelled ws) := by
  cases ws with
  | nil => exact .nil
  | cons w ws =>
    refine .cons (length_le_length_spell c true w) ?_
    rw [List.forall₂_map_right_iff, List.forall₂_same]
    exact fun v _ => length_le_length_spell c false v

theorem isSolid_spell (h : Text.IsSolid w) (first : Bool) : Text.IsSolid (c.spell first w) := by
  cases c with
  | upper => exact h.upper
  | pascal | start => exact h.lower.capitalize
  | camel | sentence => cases first <;> first | exact h.lower | exact h.lower.capitalize
  | _ => exact h.lower

theorem isSolid_of_mem_spelled (h : ∀ w ∈ ws, Text.IsSolid w) :
    ∀ v ∈ c.spelled ws, Text.IsSolid v := by
  cases ws with
  | nil => simp [spelled]
  | cons w ws =>
    intro v hv
    rcases List.mem_cons.mp hv with rfl | hv
    · exact isSolid_spell (h w List.mem_cons_self) true
    · obtain ⟨u, hu, rfl⟩ := List.mem_map.mp hv
      exact isSolid_spell (h u (List.mem_cons_of_mem w hu)) false

end Spelling

section Converting

/-- The cases that take a text apart spell its words and join them. In camel case a text without
words is left alone. -/
theorem convert_eq_join (hlower : c ≠ lower) (hupper : c ≠ upper)
    (h : c = camel → Text.words s = [] → s = []) :
    c.convert s = Text.join c.joiner (c.spelled (Text.words s)) := by
  cases c with
  | lower => exact absurd rfl hlower
  | upper => exact absurd rfl hupper
  | camel =>
    cases hs : Text.words s with
    | nil => rw [h rfl hs]; rfl
    | cons w ws =>
      simp only [convert, hs, joiner, Text.join_nil_left]
      rfl
  | pascal =>
    rw [convert, spelled_eq_map rfl, ← Text.join_nil_left]
    rfl
  | start =>
    rw [convert, spelled_eq_map rfl]
    rfl
  | kebab =>
    rw [convert, Text.kebab, Text.isDivider_hyphen.lower_join, spelled_eq_map rfl]
    rfl
  | snake =>
    rw [convert, Text.isDivider_underscore.lower_join, spelled_eq_map rfl]
    rfl
  | sentence =>
    rw [convert, Text.isDivider_space.lower_join]
    cases hs : Text.words s with
    | nil => rfl
    | cons w ws =>
      have hw : Text.IsSolid w := Text.isSolid_of_mem_words (by rw [hs]; exact List.mem_cons_self)
      rw [List.map_cons, Text.capitalize_join hw.lower.ne_nil]
      rfl

/-- Whether a text stays as it is when its words are spelled and joined again: no word begins
inside of another where something is written between them, and each is spelled already. Lower and
upper case take no text apart. -/
def IsSettled (c : LetterCase) (t : Text) : Prop :=
  c = lower ∨ c = upper ∨
    (c.joiner ≠ [] → Text.Unbroken t) ∧ c.spelled (Text.words t) = Text.words t

instance (c : LetterCase) (t : Text) : Decidable (c.IsSettled t) :=
  inferInstanceAs (Decidable (_ ∨ _ ∨ _ ∧ _))

theorem eq_nil_of_words_join {sep : Text} (h : ∀ w ∈ ws, Text.IsSolid w)
    (ht : t = Text.join sep ws) (hwords : Text.words t = []) : t = [] := by
  cases ws with
  | nil => exact ht
  | cons w ws =>
    have hw := h w List.mem_cons_self
    obtain ⟨c, hc⟩ := List.exists_mem_of_ne_nil w hw.ne_nil
    have hmem : c ∈ Text.undelimited t := by
      refine List.mem_filter.mpr ⟨?_, by simp [hw.isDelimiter_eq_false c hc]⟩
      rw [ht]
      exact Text.mem_join_of_mem List.mem_cons_self hc
    rw [← Text.flatten_words, hwords] at hmem
    exact absurd hmem (by simp)

/-- Joining the words of a text as they are. -/
theorem join_words_of_unbroken (h : ∀ w ∈ ws, Text.IsSolid w) (ht : t = Text.join c.joiner ws)
    (hunbroken : c.joiner ≠ [] → Text.Unbroken t) : Text.join c.joiner (Text.words t) = t := by
  by_cases hjoiner : c.joiner = []
  · rw [hjoiner, Text.join_nil_left] at ht ⊢
    rw [Text.flatten_words, Text.undelimited, List.filter_eq_self]
    intro d hd
    rw [ht] at hd
    obtain ⟨w, hw, hd⟩ := List.mem_flatten.mp hd
    simp [(h w hw).isDelimiter_eq_false d hd]
  · obtain ⟨d, hd⟩ := exists_joiner_eq hjoiner
    rw [hd] at ht ⊢
    subst ht
    exact Text.join_words_join h (hunbroken hjoiner)

/-- No word begins inside of a text of words that stays as it is, since the text would become
longer. -/
theorem unbroken_of_join_spelled (h : ∀ w ∈ ws, Text.IsSolid w) (ht : t = Text.join c.joiner ws)
    (hself : Text.join c.joiner (c.spelled (Text.words t)) = t) (hjoiner : c.joiner ≠ []) :
    Text.Unbroken t := by
  by_contra hbroken
  obtain ⟨d, hd⟩ := exists_joiner_eq hjoiner
  have hspaced : Text.IsSpaced t := by
    rw [ht, hd]
    exact Text.isSpaced_join h
  have hlonger := Text.length_lt_length_join_words hspaced hbroken d
  have hlength : (Text.join c.joiner (Text.words t)).length ≤
      (Text.join c.joiner (c.spelled (Text.words t))).length :=
    Text.length_join_le (forall₂_spelled c (Text.words t))
  rw [hself, hd] at hlength
  omega

/-- A text of words stays as it is in a case exactly if it is settled. -/
theorem convert_eq_self_iff (hlower : c ≠ lower) (hupper : c ≠ upper)
    (h : ∀ w ∈ ws, Text.IsSolid w) (ht : t = Text.join c.joiner ws) :
    c.convert t = t ↔ c.IsSettled t := by
  have hconvert := convert_eq_join hlower hupper fun _ => eq_nil_of_words_join h ht
  have hspelled : Text.join c.joiner (c.spelled (Text.words t)) =
      Text.join c.joiner (Text.words t) ↔ c.spelled (Text.words t) = Text.words t :=
    Text.join_eq_join_iff (forall₂_spelled c (Text.words t))
  constructor
  · intro hself
    rw [hconvert] at hself
    have hunbroken := unbroken_of_join_spelled h ht hself
    refine Or.inr (Or.inr ⟨hunbroken, hspelled.mp ?_⟩)
    rw [hself, join_words_of_unbroken h ht hunbroken]
  · rintro (hc | hc | ⟨hunbroken, hwords⟩)
    · exact absurd hc hlower
    · exact absurd hc hupper
    · rw [hconvert, hspelled.mpr hwords, join_words_of_unbroken h ht hunbroken]

/-- A conversion stays as it is exactly if it is settled. -/
theorem convert_convert_iff (c : LetterCase) (s : Text) :
    c.convert (c.convert s) = c.convert s ↔ c.IsSettled (c.convert s) := by
  by_cases hlower : c = lower
  · subst hlower
    exact iff_of_true (Text.lower_lower s) (Or.inl rfl)
  by_cases hupper : c = upper
  · subst hupper
    exact iff_of_true (Text.upper_upper s) (Or.inr (Or.inl rfl))
  by_cases hcamel : c = camel ∧ Text.words s = []
  · obtain ⟨rfl, hs⟩ := hcamel
    have hself : camel.convert s = s := by rw [convert, hs]
    rw [hself]
    refine iff_of_true hself (Or.inr (Or.inr ⟨fun hjoiner => absurd rfl hjoiner, ?_⟩))
    rw [hs]
    rfl
  · have hsolid := isSolid_of_mem_spelled (c := c) fun w (hw : w ∈ Text.words s) =>
      Text.isSolid_of_mem_words hw
    exact convert_eq_self_iff hlower hupper hsolid <|
      convert_eq_join hlower hupper fun hc hs => absurd ⟨hc, hs⟩ hcamel

/-- Words in lower case are spelled as kebab and snake case want them, so that only a word that
begins inside of another changes a text in one of these cases again. -/
theorem isSettled_convert_iff_unbroken (h : c = kebab ∨ c = snake) (s : Text) :
    c.IsSettled (c.convert s) ↔ Text.Unbroken (c.convert s) := by
  obtain ⟨u, hu⟩ : ∃ u, c.convert s = Text.lower u := by
    rcases h with rfl | rfl <;> exact ⟨_, rfl⟩
  have hspell : c.spelled (Text.words (c.convert s)) =
      (Text.words (c.convert s)).map Text.lower := by
    rcases h with rfl | rfl <;> exact spelled_eq_map rfl _
  have hwords : (Text.words (c.convert s)).map Text.lower = Text.words (c.convert s) := by
    refine (List.map_congr_left fun w hw => ?_).trans (List.map_id _)
    refine Text.lower_eq_self fun d hd => ?_
    have hmem := (Text.mem_of_mem_words hw hd).1
    rw [hu] at hmem
    exact Text.lowerChar_of_mem_lower hmem
  rw [IsSettled, hspell, hwords]
  rcases h with rfl | rfl <;> simp [joiner]

end Converting

section Accepting

/-- The case that every conversion to a case is in, if there is one. -/
def certain? : LetterCase → Option LetterCase
  | lower | kebab | snake => some lower
  | upper => some upper
  | pascal | start => some start
  | camel | sentence => none

theorem isTitled_append (hs : s ≠ []) (t : Text) : isTitled (s ++ t) = isTitled s := by
  obtain ⟨d, s, rfl⟩ := List.exists_cons_of_ne_nil hs
  rfl

theorem isTitled_titled (hw : Text.IsSolid w) : isTitled (titled w) = true := by
  obtain ⟨d, v, hv⟩ := List.exists_cons_of_ne_nil hw.lower.capitalize.ne_nil
  have hhead : Text.upperChar d = [d] :=
    Text.upperChar_of_head?_capitalize (s := Text.lower w) (by rw [hv]; rfl)
  rw [titled, hv, isTitled, hhead, beq_self_eq_true]

/-- Words that begin with capitals are in start case, with spaces between them or nothing. -/
theorem accepts_start_join {sep : Text} (hsep : sep = [] ∨ sep = [' '])
    (h : ∀ w ∈ ws, Text.IsSolid w) : start.accepts (Text.join sep (ws.map titled)) = true := by
  by_cases hws : ws = []
  · rw [hws]
    rfl
  have hspace : ∀ v ∈ ws.map titled, ' ' ∉ v := by
    intro v hv hblank
    obtain ⟨w, hw, rfl⟩ := List.mem_map.mp hv
    exact absurd ((h w hw).lower.capitalize.isDelimiter_eq_false ' ' hblank) (by decide)
  have htitled : ∀ v ∈ ws.map titled, isTitled v = true := by
    intro v hv
    obtain ⟨w, hw, rfl⟩ := List.mem_map.mp hv
    exact isTitled_titled (h w hw)
  rw [accepts, Bool.or_eq_true, List.all_eq_true]
  right
  rcases hsep with rfl | rfl
  · rw [Text.join_nil_left, Text.pieces_eq_singleton]
    · obtain ⟨w, ws, rfl⟩ := List.exists_cons_of_ne_nil hws
      intro v hv
      have hw : titled w ≠ [] := (h w List.mem_cons_self).lower.capitalize.ne_nil
      rw [List.mem_singleton.mp hv, List.map_cons, List.flatten_cons, isTitled_append hw]
      exact htitled _ List.mem_cons_self
    · intro hblank
      obtain ⟨v, hv, hblank⟩ := List.mem_flatten.mp hblank
      exact hspace v hv hblank
  · rwa [Text.pieces_join hspace (by simpa using hws)]

/-- Every conversion to a case is in the case that is certain. -/
theorem accepts_convert (h : c.certain? = some d) (s : Text) : d.accepts (c.convert s) = true := by
  have hlower : ∀ t, lower.accepts (Text.lower t) = true := by
    intro t
    simp [accepts, Text.lower_lower]
  have hsolid : ∀ w ∈ Text.words s, Text.IsSolid w := fun w hw => Text.isSolid_of_mem_words hw
  cases c with
  | lower | kebab | snake =>
    obtain rfl := Option.some.inj h
    exact hlower _
  | upper =>
    obtain rfl := Option.some.inj h
    simp [accepts, convert, Text.upper_upper]
  | pascal =>
    obtain rfl := Option.some.inj h
    rw [convert, ← Text.join_nil_left]
    exact accepts_start_join (Or.inl rfl) hsolid
  | start =>
    obtain rfl := Option.some.inj h
    exact accepts_start_join (Or.inr rfl) hsolid
  | camel | sentence => cases h

/-- A text whose conversion to a case is converted differently again. -/
def unsettledText : LetterCase → Text
  | camel => "A b C!".toList
  | pascal => "A b Cd!".toList
  | sentence => "c a1B!".toList
  | _ => "a1b!".toList

theorem unsettledText_spec (h : c.certain? ≠ some c) :
    ¬c.IsSettled (c.convert (unsettledText c)) ∧ ∀ d, c.certain? ≠ some d →
      d.accepts (unsettledText c) = false ∧ d.accepts (c.convert (unsettledText c)) = false := by
  cases c <;> first | exact absurd rfl h | skip
  all_goals
    refine ⟨by decide +kernel, fun d => ?_⟩
    cases d <;> decide +kernel

end Accepting

end LetterCase

section Repairing

variable {coercions : Coercions} {r : Rule} {c : LetterCase} {cs : List LetterCase} {s : Text}
  {id : Text} {entry : Entry}

theorem Rule.exists_letterCase (h : createRule? coercions id entry = some r)
    (hkind : r.kind = .letterCase) : ∃ c cs, r.constraint = .each (.letterCase (c :: cs)) := by
  obtain ⟨value, hvalue⟩ := exists_ofValue?_of_createRule? h
  rw [hkind] at hvalue
  obtain ⟨cases, hcases, hc⟩ := Option.map_eq_some_iff.mp hvalue
  obtain ⟨c, cs, rfl⟩ := List.exists_cons_of_ne_nil (Constraint.ne_nil_of_cases? hcases)
  exact ⟨c, cs, hc.symm⟩

theorem Rule.isWorded_of_letterCase (hc : r.constraint = .each (.letterCase cs)) : r.IsWorded :=
  (isWorded_each hc).mpr fun _ hlimit => absurd hlimit (by simp [Test.limit?])

/-- A demand for one of several cases converts the other values to the first. -/
theorem Rule.mend_letterCase (hc : r.constraint = .each (.letterCase (c :: cs)))
    (ha : r.applicability = .always) (s : Text) :
    r.mend s = if (c :: cs).any (·.accepts s) then s else c.convert s := by
  have hcomplies : r.complies (.letterCase (c :: cs)) s = (c :: cs).any (·.accepts s) := by
    cases s with
    | nil => simp [complies, accepts, Test.holds, LetterCase.accepts]
    | cons d s => simp [complies, accepts, Test.holds, ha]
  rw [mend, hc]
  simp only [hcomplies, ha]
  rfl

theorem Rule.mend_mend_letterCase_iff (hc : r.constraint = .each (.letterCase (c :: cs)))
    (ha : r.applicability = .always) (s : Text) :
    r.mend (r.mend s) = r.mend s ↔
      (∃ d ∈ c :: cs, d.accepts (r.mend s) = true) ∨ c.IsSettled (r.mend s) := by
  have hmend := mend_letterCase hc ha
  by_cases hmet : ∃ d ∈ c :: cs, d.accepts (r.mend s) = true
  · rw [hmend (r.mend s), if_pos (List.any_eq_true.mpr hmet)]
    exact iff_of_true rfl (Or.inl hmet)
  · have hs : r.mend s = c.convert s := by
      rw [hmend s] at hmet ⊢
      split at hmet
      · rename_i hs
        exact absurd (List.any_eq_true.mp hs) hmet
      · rename_i hs
        rw [if_neg hs]
    rw [hmend (r.mend s), if_neg fun hany => hmet (List.any_eq_true.mp hany), hs,
      LetterCase.convert_convert_iff, or_iff_right (hs ▸ hmet)]

theorem Rule.fix_map_mend_iff {test : Test} (hw : r.IsWorded) (hc : r.constraint = .each test)
    (values : List Text) (files : Option ChangedFiles) :
    r.fix (values.map r.mend) files = r.fix values files ↔
      ∀ s ∈ values, r.mend (r.mend s) = r.mend s := by
  have hmap : (values.map r.mend).map r.mend = values.map r.mend ↔
      ∀ s ∈ values, r.mend (r.mend s) = r.mend s := by
    rw [List.map_map, List.map_inj_left]
    rfl
  rw [← hmap]
  constructor
  · intro h
    obtain ⟨left, -, hfix⟩ := hw.exists_fix_each hc values files
    obtain ⟨again, -, hfix'⟩ := hw.exists_fix_each hc (values.map r.mend) files
    rw [hfix, hfix', Except.ok.injEq] at h
    exact (Prod.mk.inj h).2
  · intro h
    rw [fix_each hc, fix_each hc, h]

/-- A rule that demands a letter case repairs values in one step exactly if each of the repaired
values is in one of the demanded cases or settled, and it does so for all values exactly if every
conversion to the first of the cases is in one of them. -/
theorem Rule.fix_fix_letterCase (h : createRule? coercions id entry = some r)
    (hkind : r.kind = .letterCase) (ha : r.applicability = .always) :
    ∃ c cs, r.constraint = .each (.letterCase (c :: cs)) ∧
      (∀ values files, ∃ left repaired, r.fix values files = .ok (left, repaired) ∧
        (r.fix repaired files = .ok (left, repaired) ↔
          ∀ s ∈ repaired, (∃ d ∈ c :: cs, d.accepts s = true) ∨ c.IsSettled s)) ∧
      ((∀ values files left repaired, r.fix values files = .ok (left, repaired) →
        r.fix repaired files = .ok (left, repaired)) ↔ ∃ d ∈ c :: cs, c.certain? = some d) := by
  obtain ⟨c, cs, hc⟩ := exists_letterCase h hkind
  have hfix := (isWorded_of_letterCase hc).exists_fix_each hc
  have hagain := fix_map_mend_iff (isWorded_of_letterCase hc) hc
  refine ⟨c, cs, hc, fun values files => ?_, fun hall => ?_, ?_⟩
  · obtain ⟨left, -, hleft⟩ := hfix values files
    refine ⟨left, _, hleft, ?_⟩
    rw [← hleft, hagain, List.forall_mem_map]
    exact forall₂_congr fun s _ => mend_mend_letterCase_iff hc ha s
  · by_contra hnone
    have hcertain : ∀ d ∈ c :: cs, c.certain? ≠ some d := fun d hd he => hnone ⟨d, hd, he⟩
    obtain ⟨hunsettled, hrefused⟩ :=
      LetterCase.unsettledText_spec (hcertain c List.mem_cons_self)
    have hmend : r.mend c.unsettledText = c.convert c.unsettledText := by
      rw [mend_letterCase hc ha, if_neg]
      rw [List.any_eq_true]
      rintro ⟨d, hd, haccepts⟩
      exact absurd haccepts (by simp [(hrefused d (hcertain d hd)).1])
    obtain ⟨left, -, hleft⟩ := hfix [c.unsettledText] none
    have hsame := hall [c.unsettledText] none _ _ hleft
    rw [← hleft, hagain] at hsame
    have hsettled := (mend_mend_letterCase_iff hc ha _).mp (hsame _ List.mem_cons_self)
    rw [hmend] at hsettled
    rcases hsettled with ⟨d, hd, haccepts⟩ | hsettled
    · exact absurd haccepts (by simp [(hrefused d (hcertain d hd)).2])
    · exact hunsettled hsettled
  · rintro ⟨d, hd, hcertain⟩ values files left repaired hrepaired
    obtain ⟨left', -, hleft⟩ := hfix values files
    obtain ⟨rfl, rfl⟩ := Prod.mk.inj (Except.ok.inj (hrepaired.symm.trans hleft))
    rw [← hleft, hagain]
    intro s _
    rw [mend_mend_letterCase_iff hc ha, mend_letterCase hc ha]
    split
    · rename_i hmet
      exact Or.inl (List.any_eq_true.mp hmet)
    · exact Or.inl ⟨d, hd, LetterCase.accepts_convert hcertain s⟩

/-- An entry that demands kebab case, and takes lower case as well. -/
def kebabOrLowerCase : Entry :=
  .given (.list [.int 2, .text "always".toList,
    .list [.text "kebab-case".toList, .text "lower-case".toList]])

theorem Rule.fix_fix_letterCase_kebabOrLowerCase :
    ∃ r, createRule? .lax "scope-case".toList kebabOrLowerCase = some r ∧ r.kind = .letterCase ∧
      r.applicability = .always ∧ ∀ values files left repaired,
        r.fix values files = .ok (left, repaired) →
          r.fix repaired files = .ok (left, repaired) := by
  have hcreated : createRule? .lax "scope-case".toList kebabOrLowerCase =
      some ⟨"scope".toList, .error, .always, .each (.letterCase [.kebab, .lower])⟩ := by rfl
  obtain ⟨c, cs, hc, -, hall⟩ := fix_fix_letterCase hcreated rfl rfl
  cases hc
  exact ⟨_, hcreated, rfl, rfl, hall.mpr ⟨.lower, by decide, rfl⟩⟩

/-- An entry that demands kebab case. -/
def kebabCase : Entry :=
  .given (.list [.int 2, .text "always".toList, .text "kebab-case".toList])

/-- Of two boundaries in a row only the first is found, and the other one by a second repair. -/
theorem Rule.fix_letterCase_a1b :
    ∃ r, createRule? .lax "scope-case".toList kebabCase = some r ∧ r.kind = .letterCase ∧
      r.applicability = .always ∧ ∃ sentence, r.describe = .ok sentence ∧
        r.fix ["a1b!".toList] none = .ok ([(0, sentence)], ["a-1b!".toList]) ∧
        r.fix ["a-1b!".toList] none = .ok ([(0, sentence)], ["a-1-b!".toList]) := by
  have hcreated : createRule? .lax "scope-case".toList kebabCase =
      some ⟨"scope".toList, .error, .always, .each (.letterCase [.kebab])⟩ := by rfl
  exact ⟨_, hcreated, rfl, rfl, _, by rfl, by rfl, by rfl⟩

end Repairing

end CommitStandard
