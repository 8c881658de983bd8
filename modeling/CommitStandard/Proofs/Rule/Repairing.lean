import Mathlib.Tactic
import CommitStandard.Proofs.Engine.Tracking
import CommitStandard.Proofs.Rule.Strict
import CommitStandard.Proofs.Text.Filling
import CommitStandard.Proofs.Text.Trimming

/-!
# What a repair is good for

A repair of a single value makes it comply or gives it back as it was
(`Test.met_or_eq_of_repair`); only the conversion to a demanded letter case can do
neither. Rules that test every value alone therefore repair each value once and
for all (`mend_mend`), in its place, and report what is left, which a rule that is
not worded can do only if nothing is left. `Rule.Repairs` says what the outcome of
a repair owes to the values it was given, and every configured rule other than a
demand for values keeps to it (`repairs_fix`).
-/
namespace CommitStandard

namespace Test

/-- Removing a symbol leaves a text that does not end with it. -/
theorem removeStops_not_isSuffix {stop : Text} (hne : stop ≠ []) (s : Text) :
    ¬stop <:+ removeStops stop s := by
  fun_induction removeStops stop s with
  | case1 s h hlt ih => exact ih
  | case2 s h =>
    intro hsuffix
    exact h ⟨List.isSuffixOf_iff_suffix.mpr hsuffix, hne⟩

@[simp] theorem removeStops_nil (s : Text) : removeStops [] s = s := by
  rw [removeStops, dif_neg (by simp)]

section Marks

variable {before rest : Text}

/-- The character before the first colon decides. -/
theorem hasMark_append_colon (hb : ':' ∉ before) (rest : Text) :
    hasMark (before ++ ':' :: rest) = (before.getLast? == some '!') := by
  have hpos : ∀ c ∈ before, decide (c ≠ ':') = true :=
    fun c hc => decide_eq_true fun he => hb (he ▸ hc)
  rw [hasMark, List.takeWhile_append_of_pos hpos]
  simp

/-- The text before a colon with an exclamation mark at its end, or with none there. -/
def withMark (wanted : Bool) (before : Text) : Text :=
  if wanted then before ++ ['!'] else before.rdropWhile fun c => decide (c = '!')

theorem getLast?_withMark (wanted : Bool) (before : Text) :
    ((withMark wanted before).getLast? == some '!') = wanted := by
  cases wanted with
  | true => simp [withMark]
  | false =>
    rw [withMark, if_neg Bool.false_ne_true, beq_eq_false_iff_ne]
    intro hlast
    simpa using Text.getLast?_rdropWhile hlast

theorem withMark_ne {wanted : Bool} (h : (before.getLast? == some '!') ≠ wanted) :
    withMark wanted before ≠ before := by
  intro hsame
  have hlast := getLast?_withMark wanted before
  rw [hsame] at hlast
  exact h hlast

theorem mem_withMark {wanted : Bool} {c : Char} (hc : c ∈ withMark wanted before) :
    c = '!' ∨ c ∈ before := by
  unfold withMark at hc
  split at hc
  · exact (List.mem_append.mp hc).symm.imp_left List.mem_singleton.mp
  · exact Or.inr ((List.rdropWhile_prefix _ _).subset hc)

theorem head?_withMark {wanted : Bool} {c : Char} (hc : (withMark wanted before).head? = some c) :
    c = '!' ∨ before.head? = some c := by
  unfold withMark at hc
  split at hc
  · cases before with
    | nil => exact Or.inl (Option.some.inj hc).symm
    | cons d before => exact Or.inr hc
  · right
    obtain ⟨t, ht⟩ := List.rdropWhile_prefix (fun c => decide (c = '!')) before
    rw [← ht, List.head?_append, hc]
    rfl

/-- Only what follows the last other character is changed. -/
theorem withMark_append (hlast : before.getLast? ≠ some '!') (wanted : Bool) (s : Text) :
    withMark wanted (before ++ s) = before ++ withMark wanted s := by
  unfold withMark
  split
  · exact List.append_assoc before s ['!']
  · refine Text.rdropWhile_append_of_last (fun c hc => decide_eq_false fun he => ?_) s
    exact hlast (he ▸ hc)

/-- The text before the first colon is given its mark. -/
theorem setMark_append_colon (hb : ':' ∉ before) (hne : before ≠ []) (wanted : Bool)
    (rest : Text) :
    setMark wanted (before ++ ':' :: rest) = withMark wanted before ++ ':' :: rest := by
  have hpos : ∀ c ∈ before, decide (c ≠ ':') = true :=
    fun c hc => decide_eq_true fun he => hb (he ▸ hc)
  have hbefore : (before ++ ':' :: rest).takeWhile (fun c => decide (c ≠ ':')) = before := by
    rw [List.takeWhile_append_of_pos hpos]
    simp
  have hafter : (before ++ ':' :: rest).dropWhile (fun c => decide (c ≠ ':')) = ':' :: rest := by
    rw [List.dropWhile_append_of_pos hpos]
    simp
  have hfull : (before.isEmpty || (':' :: rest).isEmpty) = false := by simpa using hne
  rw [setMark, withMark]
  simp only [hbefore, hafter, hfull, Bool.false_eq_true, if_false]
  cases wanted with
  | true => simp
  | false => rfl

/-- A value has a mark as it is wanted, or setting the mark changes nothing. -/
theorem hasMark_setMark (wanted : Bool) (s : Text) :
    hasMark (setMark wanted s) = wanted ∨ setMark wanted s = s := by
  by_cases hmem : ':' ∈ s
  · obtain ⟨before, rest, rfl, hcolon⟩ := List.eq_append_cons_of_mem hmem
    by_cases hne : before = []
    · exact Or.inr (by simp [hne, setMark])
    have hmarked : ':' ∉ withMark wanted before := fun hc =>
      (mem_withMark hc).elim (by decide) hcolon
    left
    rw [setMark_append_colon hcolon hne, hasMark_append_colon hmarked, getLast?_withMark]
  · right
    have hnone : s.dropWhile (fun c => decide (c ≠ ':')) = [] := by
      rw [List.dropWhile_eq_nil_iff]
      exact fun c hc => decide_eq_true fun he => hmem (he ▸ hc)
    simp only [setMark, hnone, List.isEmpty_nil, Bool.or_true, if_true]

end Marks

section Blanks

/-- A line feed in front of a value is a leading blank line. -/
theorem isSome_leadingBlank?_cons (s : Text) : (leadingBlank? ('\n' :: s)).isSome = true := by
  have hblank : Text.isBlank '\n' = true := by decide
  simp [leadingBlank?, hblank]

/-- Without its leading blank lines a value has none. -/
theorem leadingBlank?_drop (s : Text) :
    leadingBlank? (s.drop ((leadingBlank? s).getD []).length) = none := by
  obtain ⟨blanks, hblanks⟩ : ∃ blanks, s.takeWhile Text.isBlank = blanks := ⟨_, rfl⟩
  by_cases hline : '\n' ∈ blanks
  · -- The blanks after the last line feed among them stay, and no others.
    let removed := blanks.rdropWhile fun c => decide (c ≠ '\n')
    let kept := blanks.rtakeWhile fun c => decide (c ≠ '\n')
    have hleading : (leadingBlank? s).getD [] = removed := by
      simp only [leadingBlank?, hblanks, if_pos hline, Option.getD_some]
      rfl
    have hs : s = removed ++ (kept ++ s.dropWhile Text.isBlank) := by
      rw [← List.append_assoc, List.rdropWhile_append_rtakeWhile, ← hblanks,
        List.takeWhile_append_dropWhile]
    have hkept : ∀ c ∈ kept, Text.isBlank c = true ∧ c ≠ '\n' := by
      intro c hc
      have hmem : c ∈ s.takeWhile Text.isBlank := by
        rw [hblanks]
        exact (List.rtakeWhile_suffix _ _).subset hc
      exact ⟨List.mem_takeWhile_imp hmem, by simpa using List.mem_rtakeWhile_imp hc⟩
    have hrest : (s.dropWhile Text.isBlank).takeWhile Text.isBlank = [] := by
      rw [List.takeWhile_eq_nil_iff]
      intro h
      simpa using List.dropWhile_get_zero_not Text.isBlank s h
    have hdrop : s.drop removed.length = kept ++ s.dropWhile Text.isBlank := by
      conv_lhs => rw [hs, List.drop_left]
    rw [hleading, hdrop, leadingBlank?,
      List.takeWhile_append_of_pos fun c hc => (hkept c hc).1, hrest, List.append_nil]
    exact if_neg fun hmem => (hkept _ hmem).2 rfl
  · have hnone : leadingBlank? s = none := by
      simp only [leadingBlank?, hblanks, if_neg hline]
    rw [hnone]
    exact hnone

end Blanks

/-- A value is out of all forbidden cases or stays as it is. -/
theorem avoidCases_spec (forbidden : List LetterCase) (s : Text) :
    (∀ c ∈ forbidden, c.accepts (avoidCases forbidden s) = false) ∨ avoidCases forbidden s = s := by
  unfold avoidCases
  dsimp only
  cases hfind : ((LetterCase.all.filter fun c => !forbidden.contains c).map (·.convert s)).find?
      fun t => !forbidden.any (·.accepts t) with
  | none => exact Or.inr rfl
  | some t =>
    left
    have ht := List.find?_some hfind
    simpa using ht

end Test

/-- A test that leaves empty values alone is met where its answer for the others is as wanted. -/
theorem Test.met_of_holds {t : Test} {a : Applicability} {s : Text} {answer : Bool}
    (h : t.holds s = if s.isEmpty then none else some answer) (ha : answer = (a == .always)) :
    t.met a s = true := by
  unfold met
  rw [h]
  cases s.isEmpty with
  | true => rfl
  | false => simp [ha]

namespace Test

/-! The repairs that have more to them than the test they are for: what they leave is as it should
be, or they leave the value as it was. -/

theorem met_addStop (stop s : Text) : (fullStop stop).met .always (s ++ stop) = true :=
  met_of_holds rfl (by simp)

theorem met_removeStops_or_eq (stop s : Text) :
    (fullStop stop).met .never (removeStops stop s) = true ∨ removeStops stop s = s := by
  by_cases hstop : stop = []
  · rw [hstop, removeStops_nil]
    exact Or.inr rfl
  · refine Or.inl (met_of_holds rfl ?_)
    show stop.isSuffixOf _ = false
    rw [← Bool.not_eq_true, List.isSuffixOf_iff_suffix]
    exact removeStops_not_isSuffix hstop s

theorem met_setMark_or_eq (a : Applicability) (s : Text) :
    exclamationMark.met a (setMark (a == .always) s) = true ∨ setMark (a == .always) s = s := by
  refine (hasMark_setMark (a == .always) s).imp_left fun hmark => ?_
  show (hasMark _ == _) = true
  rw [hmark, beq_self_eq_true]

theorem met_truncate (width : Nat) (s : Text) :
    (maxLength width).met .always (Text.truncate s width) = true := by
  have hlength : (Text.truncate s width).length ≤ width := Text.length_cutTo_le width s
  simpa [met, holds] using hlength

theorem met_of_wrap {limit : Int} (hlimit : 1 ≤ limit) {s s' : Text}
    (h : Text.wrap s limit = .ok s') : (maxLineLength limit).met .always s' = true := by
  rw [Text.wrap, if_pos (by omega)] at h
  obtain rfl := Except.ok.inj h
  have hwidth : 1 ≤ limit.toNat := by omega
  have hfits := Text.linesFit_wrapTo hwidth s
  rw [Int.toNat_of_nonneg (by omega)] at hfits
  simp [met, holds, hfits]

theorem met_dropBlanks (s : Text) :
    leadingBlank.met .never (s.drop ((leadingBlank? s).getD []).length) = true :=
  met_of_holds rfl (by rw [leadingBlank?_drop]; rfl)

theorem met_avoidCases_or_eq (forbidden : List LetterCase) (s : Text) :
    (letterCase forbidden).met .never (avoidCases forbidden s) = true ∨
      avoidCases forbidden s = s := by
  refine (avoidCases_spec forbidden s).imp_left fun havoid => met_of_holds rfl ?_
  show forbidden.any _ = false
  simpa using havoid

section Repairs

variable {t : Test} {a : Applicability} {repair : Text → Except Text.InvalidWidth Text}
  (h : t.repair? a = some repair) {s s' : Text} (hs : repair s = .ok s')

include h hs

/-- A repair for a limit makes a value comply. -/
theorem met_of_repair_of_limit? {limit : Int} (hlimit : t.limit? = some limit) (hn : 0 ≤ limit) :
    t.met a s' = true := by
  cases t with
  | maxLength width =>
    cases a with
    | never => cases h
    | always =>
      obtain rfl := Option.some.inj h
      obtain rfl := Except.ok.inj hs
      obtain rfl := Option.some.inj hlimit
      obtain ⟨width, rfl⟩ := Int.eq_ofNat_of_zero_le hn
      exact met_truncate width s
  | maxLineLength width =>
    cases a with
    | never => cases h
    | always =>
      rw [repair?] at h
      split at h
      · cases h
      · obtain rfl := Option.some.inj h
        exact met_of_wrap (by omega) hs
  | minLength width => cases a <;> cases h
  | _ => cases hlimit

/-- A repair makes a value comply or gives it back as it was. A conversion to a demanded case is
left out: what it makes of a value need not be in the case. -/
theorem met_or_eq_of_repair (hcase : ¬(t.kind = .letterCase ∧ a = .always))
    (hlimit : ∀ limit, t.limit? = some limit → 0 ≤ limit) : t.met a s' = true ∨ s' = s := by
  cases t with
  | maxLength limit | minLength limit | maxLineLength limit =>
    exact Or.inl (met_of_repair_of_limit? h hs rfl (hlimit limit rfl))
  | exclamationMark =>
    obtain rfl := Option.some.inj h
    obtain rfl := Except.ok.inj hs
    exact met_setMark_or_eq a s
  | enum values => cases a <;> cases h
  | empty | trim =>
    cases a with
    | never => cases h
    | always =>
      obtain rfl := Option.some.inj h
      obtain rfl := Except.ok.inj hs
      exact Or.inl (by simp [met, holds, Text.isBlankText])
  | fullStop stop =>
    cases a with
    | always =>
      obtain rfl := Option.some.inj h
      obtain rfl := Except.ok.inj hs
      exact Or.inl (met_addStop stop s)
    | never =>
      obtain rfl := Option.some.inj h
      obtain rfl := Except.ok.inj hs
      exact met_removeStops_or_eq stop s
  | leadingBlank =>
    cases a with
    | always =>
      obtain rfl := Option.some.inj h
      obtain rfl := Except.ok.inj hs
      exact Or.inl (by simp [met, holds, isSome_leadingBlank?_cons])
    | never =>
      obtain rfl := Option.some.inj h
      obtain rfl := Except.ok.inj hs
      exact Or.inl (met_dropBlanks s)
  | letterCase cs =>
    cases a with
    | always => exact absurd ⟨rfl, rfl⟩ hcase
    | never =>
      obtain rfl := Option.some.inj h
      obtain rfl := Except.ok.inj hs
      exact met_avoidCases_or_eq cs s

end Repairs

/-- Of the tests with a limit, demands can be repaired other than that for a least length. -/
theorem repair?_eq_none_iff_of_limit? {t : Test} {a : Applicability} {limit : Int}
    (h : t.limit? = some limit) (hn : 0 < limit) :
    t.repair? a = none ↔ ¬(a = .always ∧ t.kind ≠ .minLength) := by
  cases t with
  | maxLength width => cases a <;> simp [repair?, kind]
  | minLength width => cases a <;> simp [repair?, kind]
  | maxLineLength width =>
    obtain rfl := Option.some.inj h
    have hroom : ¬width < 1 := by omega
    cases a <;> simp [repair?, kind, hroom]
  | _ => cases h

end Test

section Values

variable {r : Rule} {test : Test} {values : List Text} {files : Option ChangedFiles}

/-- Repairing a value once is enough, except for the conversion to a demanded letter case. -/
theorem Rule.mend_mend (hc : r.constraint = .each test)
    (hcase : ¬(r.kind = .letterCase ∧ r.applicability = .always))
    (hlimit : ∀ limit, test.limit? = some limit → 0 ≤ limit) (s : Text) :
    r.mend (r.mend s) = r.mend s := by
  have hkind : r.kind = test.kind := by rw [kind, hc]; rfl
  rcases mend_cases hc s with hsame | ⟨repair, hr, hs⟩
  · rw [hsame, hsame]
  · rcases Test.met_or_eq_of_repair hr hs (hkind ▸ hcase) hlimit with hrepaired | hsame
    · exact mend_of_complies hc hrepaired
    · rw [hsame, hsame]

end Values

/-- What a repair that leaves some violations owes to the values that it was given. -/
structure Rule.Repairs (r : Rule) (files : Option ChangedFiles) (values : List Text)
    (left : List Finding) (repaired : List Text) : Prop where
  /-- The violations that are left are those of the repaired values. -/
  validate_repaired : r.validate repaired files = .ok left
  /-- Repairing again changes nothing, except for a demanded letter case. -/
  fix_repaired : ¬(r.kind = .letterCase ∧ r.applicability = .always) →
    r.fix repaired files = .ok (left, repaired)
  /-- Values without violations stay. -/
  unchanged : r.validate values files = .ok [] → repaired = values
  /-- Values keep their places, and those without a violation stay. -/
  inPlace : r.kind ≠ .allowMultiple → repaired.length = values.length ∧
    ∀ (i : Nat) s, values[i]? = some s → r.validate [s] files = .ok [] → repaired[i]? = some s

section Contract

variable {c : Coercions} {r : Rule} {test : Test} {values repaired : List Text}
  {left : List Finding} {files : Option ChangedFiles}

/-- A rule that tests every value alone repairs each of them in its place. -/
theorem Rule.repairs_each (hc : r.constraint = .each test)
    (hlimit : ∀ limit, test.limit? = some limit → 0 ≤ limit)
    (h : r.fix values files = .ok (left, repaired)) : r.Repairs files values left repaired := by
  rw [fix_each hc] at h
  obtain ⟨hreport, rfl⟩ : r.report (r.violating test (testedValues test (values.map r.mend))) =
      .ok left ∧ values.map r.mend = repaired := by
    cases hreport : r.report (r.violating test (testedValues test (values.map r.mend))) with
    | error fault =>
      rw [hreport] at h
      cases h
    | ok found =>
      rw [hreport] at h
      obtain ⟨rfl, rfl⟩ := Prod.mk.inj (Except.ok.inj h)
      exact ⟨rfl, rfl⟩
  refine ⟨by rw [validate_each hc, hreport], fun hcase => ?_, fun hnone => ?_, fun _ => ?_⟩
  · have hagain : (values.map r.mend).map r.mend = values.map r.mend := by
      rw [List.map_map]
      exact List.map_congr_left fun s _ => mend_mend hc hcase hlimit s
    rw [fix_each hc, hagain, hreport]
    rfl
  · exact (List.map_congr_left (mend_of_validate hc hnone)).trans (List.map_id values)
  · refine ⟨List.length_map _, fun i s hs hnone => ?_⟩
    rw [List.getElem?_map, hs, Option.map_some, mend_of_validate hc hnone s List.mem_cons_self]

/-- A rule that allows or forbids several values keeps all of them or the first. -/
theorem Rule.repairs_allowMultiple {delimiter : Text} (hc : r.constraint = .allowMultiple delimiter)
    (files : Option ChangedFiles) (values : List Text) :
    ∃ repaired, r.fix values files = .ok ([], repaired) ∧ r.Repairs files values [] repaired := by
  have hkind : r.kind = .allowMultiple := by rw [kind, hc]; rfl
  cases ha : r.applicability with
  | always =>
    refine ⟨values, by rw [fix, hc, ha], ?_⟩
    exact ⟨by rw [validate, hc, ha], fun _ => by rw [fix, hc, ha], fun _ => rfl,
      fun hno => absurd hkind hno⟩
  | never =>
    have hlength : (values.take 1).length - 1 = 0 := by
      rw [List.length_take]
      omega
    refine ⟨values.take 1, by rw [fix, hc, ha], ?_, fun _ => ?_, fun hnone => ?_,
      fun hno => absurd hkind hno⟩
    · rw [validate, hc, ha]
      simp only [hlength]
      rfl
    · rw [fix, hc, ha]
      simp [List.take_take]
    · rw [validate, hc, ha, report_eq_nil_iff, List.range'_eq_nil_iff] at hnone
      exact List.take_of_length_le (by omega)

/-- A rule that compares with the changed files repairs nothing. -/
theorem Rule.repairs_alignment {directories : List Text}
    (hc : r.constraint = .alignment directories) (files : Option ChangedFiles)
    (values : List Text) :
    ∃ left, r.fix values files = .ok (left, values) ∧ r.Repairs files values left values := by
  have hbuiltIn : r.IsBuiltIn := fun check => by simp [hc]
  obtain ⟨left, hleft⟩ :=
    hbuiltIn.exists_validate (isWorded_of_forall_ne (by simp [hc])) values files
  have hfix : r.fix values files = .ok (left, values) := by
    rw [fix, hc]
    simp only [hleft]
    rfl
  exact ⟨left, hfix, hleft, fun _ => hfix, fun _ => rfl, fun _ => ⟨rfl, fun _ _ hs _ => hs⟩⟩

/-- A configured limit is a number of characters. -/
theorem Constraint.limit_nonneg_of_ofValue? {kind : Kind} {value : Value} {limit : Int}
    (h : ofValue? kind value = some (.each test)) (hlimit : test.limit? = some limit) :
    0 ≤ limit := by
  cases kind with
  | maxLength | minLength | maxLineLength =>
    obtain ⟨n, hn, he⟩ := Option.map_eq_some_iff.mp h
    obtain rfl := Constraint.each.inj he
    obtain rfl := Option.some.inj hlimit
    exact nonneg_of_count? hn
  | empty | trim | exclamationMark | leadingBlank =>
    obtain rfl := Constraint.each.inj (Option.some.inj h)
    cases hlimit
  | fullStop | letterCase | enum =>
    obtain ⟨_, -, he⟩ := Option.map_eq_some_iff.mp h
    obtain rfl := Constraint.each.inj he
    cases hlimit
  | allowMultiple | presence | alignment =>
    obtain ⟨_, -, he⟩ := Option.map_eq_some_iff.mp h
    cases he

theorem limit_nonneg_of_createRule? {id : Text} {entry : Entry} {limit : Int}
    (h : createRule? c id entry = some r) (hc : r.constraint = .each test)
    (hlimit : test.limit? = some limit) : 0 ≤ limit := by
  obtain ⟨part, kind, setting, constraint, -, -, hconstraint, rfl⟩ := exists_of_createRule? h
  obtain rfl : constraint = _ := hc
  exact Constraint.limit_nonneg_of_ofValue? hconstraint hlimit

theorem Rule.kind_of_each (hc : r.constraint = .each test) : r.kind = test.kind := by
  rw [kind, hc]
  rfl

/-- The repair of a rule that is not worded has an outcome exactly if it leaves nothing to
report. -/
theorem Rule.exists_fix_iff_of_not_isWorded (hw : ¬r.IsWorded) (hc : r.constraint = .each test)
    (hlimit : ∀ limit, test.limit? = some limit → 0 ≤ limit) (values : List Text)
    (files : Option ChangedFiles) :
    (∃ left repaired, r.fix values files = .ok (left, repaired)) ↔
      r.validate values files = .ok [] ∨ r.applicability = .always ∧ r.kind ≠ .minLength := by
  obtain ⟨limit, hl, hlarge⟩ : ∃ limit, test.limit? = some limit ∧
      ¬limit.natAbs < Text.unwritable := by
    simpa [Test.IsWorded] using mt (isWorded_each hc).mpr hw
  have hpositive : 0 < limit := by
    have hsome := Text.unwritable_pos
    have := hlimit limit hl
    omega
  have htested : ∀ vs, testedValues test vs = vs := by
    intro vs
    cases test <;> first | rfl | cases hl
  have hfix : (∃ left repaired, r.fix values files = .ok (left, repaired)) ↔
      r.violating test (values.map r.mend) = [] := by
    rw [fix_each hc, htested]
    constructor
    · rintro ⟨left, repaired, h⟩
      by_contra hne
      rw [report_of_not_isWorded hw hne] at h
      cases h
    · intro hnone
      rw [hnone]
      exact ⟨[], _, rfl⟩
  rw [hfix, kind_of_each hc]
  cases hr : test.repair? r.applicability with
  | none =>
    have hmend : values.map r.mend = values := by
      refine (List.map_congr_left fun s _ => ?_).trans (List.map_id values)
      simp [mend, hc, hr]
    rw [hmend, validate_each hc, htested, report_eq_nil_iff]
    exact (or_iff_left ((Test.repair?_eq_none_iff_of_limit? hl hpositive).mp hr)).symm
  | some repair =>
    refine iff_of_true (violating_eq_nil_iff.mpr ?_) (Or.inr ?_)
    · intro s' hs'
      obtain ⟨s, -, rfl⟩ := List.mem_map.mp hs'
      by_cases hcomplies : r.complies test s = true
      · rwa [mend_of_complies hc hcomplies]
      · exact Test.met_of_repair_of_limit? hr (repair_eq_mend hc hr hcomplies) hl hpositive.le
    · by_contra hno
      rw [(Test.repair?_eq_none_iff_of_limit? hl hpositive).mpr hno] at hr
      cases hr

/-- Every configured rule, other than a demand or a ban of values, repairs what it is given as a
repair should: it never claims what it did not do, it is done at once, it leaves alone what
complies, and it keeps every value in its place unless it cuts the list. The repair has an outcome
if the rule is worded, and otherwise exactly if it leaves nothing to report. -/
theorem Rule.repairs_fix {id : Text} {entry : Entry} (h : createRule? c id entry = some r)
    (hkind : r.kind ≠ .presence) (values : List Text) (files : Option ChangedFiles) :
    ((∃ left repaired, r.fix values files = .ok (left, repaired)) ↔
      r.IsWorded ∨ r.validate values files = .ok [] ∨
        r.applicability = .always ∧ r.kind ≠ .minLength) ∧
    ∀ left repaired, r.fix values files = .ok (left, repaired) →
      r.Repairs files values left repaired := by
  cases hc : r.constraint with
  | each test =>
    have hlimit : ∀ limit, test.limit? = some limit → 0 ≤ limit :=
      fun limit => limit_nonneg_of_createRule? h hc
    refine ⟨?_, fun left repaired hfix => repairs_each hc hlimit hfix⟩
    by_cases hw : r.IsWorded
    · obtain ⟨left, -, hfix⟩ := hw.exists_fix_each hc values files
      exact iff_of_true ⟨left, _, hfix⟩ (Or.inl hw)
    · rw [exists_fix_iff_of_not_isWorded hw hc hlimit, or_iff_right hw]
  | allowMultiple delimiter =>
    obtain ⟨repaired, hfix, hrepairs⟩ := repairs_allowMultiple hc files values
    refine ⟨iff_of_true ⟨_, _, hfix⟩ (Or.inl (isWorded_of_forall_ne (by simp [hc]))), ?_⟩
    intro left other hother
    obtain ⟨rfl, rfl⟩ := Prod.mk.inj (Except.ok.inj (hfix.symm.trans hother))
    exact hrepairs
  | presence texts => exact absurd (by rw [kind, hc]; rfl) hkind
  | alignment directories =>
    obtain ⟨left, hfix, hrepairs⟩ := repairs_alignment hc files values
    refine ⟨iff_of_true ⟨_, _, hfix⟩ (Or.inl (isWorded_of_forall_ne (by simp [hc]))), ?_⟩
    intro other repaired hother
    obtain ⟨rfl, rfl⟩ := Prod.mk.inj (Except.ok.inj (hfix.symm.trans hother))
    exact hrepairs
  | custom check => exact absurd hc ((isCreated_of_createRule? h).isBuiltIn check)

/-- An entry that demands lines of at most eight characters. -/
def narrowBody : Entry :=
  .given (.list [.int 2, .text "always".toList, .int 8])

theorem Rule.repairs_fix_narrowBody :
    ∃ r, createRule? .lax "body-max-line-length".toList narrowBody = some r ∧
      r.kind ≠ .presence ∧ ∃ left repaired,
        r.fix ["one two three".toList, "four".toList] none = .ok (left, repaired) ∧
        r.Repairs none ["one two three".toList, "four".toList] left repaired := by
  have hcreated : createRule? .lax "body-max-line-length".toList narrowBody =
      some ⟨"body".toList, .error, .always, .each (.maxLineLength 8)⟩ := by rfl
  obtain ⟨hiff, hrepairs⟩ := repairs_fix hcreated (by decide)
    ["one two three".toList, "four".toList] none
  obtain ⟨left, repaired, hfix⟩ := hiff.mpr (Or.inr (Or.inr ⟨rfl, by decide⟩))
  exact ⟨_, hcreated, by decide, left, repaired, hfix, hrepairs left repaired hfix⟩

/-- A least length that cannot be written breaks down, and its repair with it. -/
theorem Rule.fix_unwritable :
    ∃ r, createRule? .lax "subject-min-length".toList (minLengthEntry .error Text.unwritable) =
        some r ∧ r.kind ≠ .presence ∧
      r.validate ["Add parser".toList] none = .error (.digits {}) ∧
      r.fix ["Add parser".toList] none = .error (.digits {}) := by
  have hshort : "Add parser".toList.length < Text.unwritable :=
    (by decide : (Test.minLength 10).IsWorded) 10 rfl
  let r : Rule := ⟨Part.subject.name, .error, .always, .each (.minLength Text.unwritable)⟩
  have hfault : r.validate ["Add parser".toList] none = .error (.digits {}) :=
    validate_minLength_of_always le_rfl rfl rfl hshort none
  refine ⟨r, createRule?_minLengthEntry .lax (by decide) _, by decide, hfault, ?_⟩
  show (r.validate ["Add parser".toList] none >>= fun left => pure (left, _)) = _
  rw [hfault]
  rfl

end Contract

end CommitStandard
