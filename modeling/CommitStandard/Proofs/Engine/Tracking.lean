import Mathlib.Tactic
import CommitStandard.Proofs.Engine.Checking

/-!
# Where repaired values come from

Rules that repair change values one by one, take values out, or add values at the
end. A rule that is not worded repairs nothing, because it breaks down where it
would have something to report. `trackAll` does so to values that remember at which
index they began, and an evaluation leaves what it leaves (`output_evaluate_true`).
Every value that began at an index is what the rules make of the value there
(`isMade_of_mem_trackAll`), and values never overtake each other
(`pairwise_trackAll`).
-/
namespace CommitStandard

/-- A value with the index at which it began, or none if a rule added it. -/
structure Tracked where
  origin : Option Nat
  value : Text
deriving DecidableEq

/-- What the repair of a rule makes of a single value. -/
def Rule.mend (r : Rule) (s : Text) : Text :=
  match r.constraint with
  | .each test =>
    if r.complies test s then s
    else match test.repair? r.applicability with
      | some repair => (repair s).toOption.getD s
      | none => s
  | _ => s

/-- What a rule makes of a single value in an evaluation with repairs. It comes to a repair only if
the violations could be reported. -/
def Rule.rewrite (r : Rule) (s : Text) : Text :=
  match r.describe with
  | .ok _ => r.mend s
  | .error _ => s

/-- What rules in a row make of a single value. -/
def rewriteAll (rules : List Rule) (s : Text) : Text := rules.foldl (fun s r => r.rewrite s) s

/-- What a rule makes of values. -/
def Rule.track (r : Rule) (vs : List Tracked) : List Tracked :=
  match r.constraint, r.applicability with
  | .each _, _ => vs.map fun v => { v with value := r.rewrite v.value }
  | .allowMultiple _, .never => vs.take 1
  | .presence wanted, .always =>
    vs ++ (Rule.missing wanted (vs.map Tracked.value)).map (Tracked.mk none)
  | .presence forbidden, .never => vs.filter fun v => !forbidden.contains (Text.strip v.value)
  | _, _ => vs

/-- Whether a rule can take values out: it forbids some of them, or more than one. -/
def Rule.TakesOut (r : Rule) : Prop :=
  r.applicability = .never ∧ (r.kind = .allowMultiple ∨ r.kind = .presence)

/-- What rules in a row make of values that begin at their indexes. -/
def trackAll (rules : List Rule) (texts : List Text) : List Tracked :=
  rules.foldl (fun vs r => r.track vs) (texts.mapIdx fun i s => ⟨some i, s⟩)

/-- A repair is only made where it is possible. -/
theorem Test.exists_repair {t : Test} {a : Applicability}
    {repair : Text → Except Text.InvalidWidth Text} (h : t.repair? a = some repair) (s : Text) :
    ∃ s', repair s = .ok s' := by
  cases t with
  | maxLineLength limit =>
    cases a with
    | always =>
      rw [Test.repair?] at h
      split at h
      · cases h
      · rename_i hlimit
        obtain rfl := Option.some.inj h
        exact ⟨Text.wrapTo limit.toNat s, if_pos (by omega)⟩
    | never => cases h
  | _ =>
    cases a <;> first
      | exact ⟨_, (congrFun (Option.some.inj h) s).symm⟩
      | cases h

section Rules

variable {r : Rule} {values : List Text} {vs : List Tracked} {files : Option ChangedFiles}

theorem Rule.rewrite_of_isWorded (hw : r.IsWorded) (s : Text) : r.rewrite s = r.mend s := by
  obtain ⟨sentence, hs⟩ := hw.exists_describe
  rw [rewrite, hs]

theorem Rule.rewrite_of_not_isWorded (hw : ¬r.IsWorded) (s : Text) : r.rewrite s = s := by
  rw [rewrite, describe_of_not_isWorded hw]

/-- Only rules that test single values rewrite them. -/
theorem Rule.rewrite_of_forall_ne (h : ∀ test, r.constraint ≠ .each test) (s : Text) :
    r.rewrite s = s := by
  rw [rewrite_of_isWorded (isWorded_of_forall_ne h), mend]
  split
  · rename_i test hc
    exact absurd hc (h test)
  · rfl

/-- A value that does not comply is repaired. -/
theorem Rule.repair_eq_mend {test : Test} (hc : r.constraint = .each test)
    {repair : Text → Except Text.InvalidWidth Text}
    (hr : test.repair? r.applicability = some repair) {s : Text}
    (hs : ¬r.complies test s = true) : repair s = .ok (r.mend s) := by
  obtain ⟨s', hs'⟩ := Test.exists_repair hr s
  have hmend : r.mend s = s' := by simp [mend, hc, hr, hs, hs', Except.toOption]
  rw [hs', hmend]

/-- A repair leaves a value or changes it. -/
theorem Rule.mend_cases {test : Test} (hc : r.constraint = .each test) (s : Text) :
    r.mend s = s ∨ ∃ repair, test.repair? r.applicability = some repair ∧
      repair s = .ok (r.mend s) := by
  by_cases hs : r.complies test s = true
  · exact Or.inl (by simp [mend, hc, hs])
  · cases hr : test.repair? r.applicability with
    | none => exact Or.inl (by simp [mend, hc, hr])
    | some repair => exact Or.inr ⟨repair, rfl, repair_eq_mend hc hr hs⟩

/-- A rule that tests single values leaves a value or repairs it. -/
theorem Rule.rewrite_cases {test : Test} (hc : r.constraint = .each test) (s : Text) :
    r.rewrite s = s ∨ ∃ repair, test.repair? r.applicability = some repair ∧
      repair s = .ok (r.rewrite s) := by
  by_cases hw : r.IsWorded
  · rw [rewrite_of_isWorded hw]
    exact mend_cases hc s
  · exact Or.inl (rewrite_of_not_isWorded hw s)

/-- The repair of every value alone. -/
theorem Rule.repairEach_eq {test : Test} (hc : r.constraint = .each test)
    {repair : Text → Except Text.InvalidWidth Text}
    (hr : test.repair? r.applicability = some repair) (values : List Text) :
    r.repairEach test repair values = .ok (values.map r.mend) := by
  have hone : (fun s => if r.complies test s then .ok s else repair s) =
      fun s => pure (r.mend s) := by
    funext s
    obtain ⟨s', hs'⟩ := Test.exists_repair hr s
    rw [Rule.mend, hc]
    by_cases h : r.complies test s = true
    · simp only [h, if_true]
      rfl
    · simp only [h, hr, hs']
      rfl
  rw [Rule.repairEach, hone, List.mapM_pure]
  rfl

/-- What is left to say when every value has been repaired in its place. -/
theorem Rule.fix_each {test : Test} (hc : r.constraint = .each test) (values : List Text)
    (files : Option ChangedFiles) :
    r.fix values files = (r.report (r.violating test (testedValues test (values.map r.mend)))).map
      fun left => (left, values.map r.mend) := by
  cases hr : test.repair? r.applicability with
  | none =>
    have hsame : values.map r.mend = values := by
      refine (List.map_congr_left fun s _ => ?_).trans (List.map_id values)
      simp [mend, hc, hr]
    rw [hsame, fix, hc]
    simp only [hr, validate_each hc]
    rfl
  | some repair =>
    rw [fix, hc]
    simp only [hr, repairEach_eq hc hr, validate_each hc]
    rfl

theorem Rule.IsWorded.exists_fix_each (hw : r.IsWorded) {test : Test}
    (hc : r.constraint = .each test) (values : List Text) (files : Option ChangedFiles) :
    ∃ left, r.report (r.violating test (testedValues test (values.map r.mend))) = .ok left ∧
      r.fix values files = .ok (left, values.map r.mend) := by
  obtain ⟨left, hleft, -⟩ :=
    hw.exists_report (r.violating test (testedValues test (values.map r.mend)))
  exact ⟨left, hleft, by rw [fix_each hc, hleft]; rfl⟩

theorem Rule.mend_of_complies {test : Test} (hc : r.constraint = .each test) {s : Text}
    (h : r.complies test s = true) : r.mend s = s := by
  rw [mend, hc]
  exact if_pos h

/-- A rule without findings leaves every value as it is. -/
theorem Rule.mend_of_validate {test : Test} (hc : r.constraint = .each test)
    (h : r.validate values files = .ok []) : ∀ s ∈ values, r.mend s = s := by
  intro s hs
  refine mend_of_complies hc ?_
  have htested : testedValues test values = values :=
    testedValues_of_ne_nil test (List.ne_nil_of_mem hs)
  rw [validate_each hc, htested, report_eq_nil_iff] at h
  obtain ⟨i, hi⟩ := List.mem_iff_getElem?.mp hs
  by_contra hno
  have hmem := mem_violating_iff.mpr ⟨s, hi, Bool.eq_false_iff.mpr hno⟩
  rw [h] at hmem
  cases hmem

/-- A rule changes the values one by one, or takes some of them out, or adds others. -/
theorem Rule.track_cases (r : Rule) (vs : List Tracked) :
    (r.track vs = vs.map fun v => { v with value := r.rewrite v.value }) ∨
      (∀ s, r.rewrite s = s) ∧
        (r.TakesOut ∧ (r.track vs).Sublist vs ∨
          ∃ added : List Text, r.track vs = vs ++ added.map (Tracked.mk none)) := by
  cases hc : r.constraint with
  | each test => exact Or.inl (by rw [track, hc])
  | allowMultiple delimiter =>
    refine Or.inr ⟨rewrite_of_forall_ne (by simp [hc]), ?_⟩
    cases ha : r.applicability with
    | always => exact Or.inr ⟨[], by simp [track, hc, ha]⟩
    | never =>
      rw [track, hc, ha]
      exact Or.inl ⟨⟨ha, Or.inl (by rw [kind, hc]; rfl)⟩, List.take_sublist 1 vs⟩
  | presence texts =>
    refine Or.inr ⟨rewrite_of_forall_ne (by simp [hc]), ?_⟩
    cases ha : r.applicability with
    | always => exact Or.inr ⟨missing texts (vs.map Tracked.value), by rw [track, hc, ha]⟩
    | never =>
      rw [track, hc, ha]
      exact Or.inl ⟨⟨ha, Or.inr (by rw [kind, hc]; rfl)⟩, List.filter_sublist⟩
  | alignment directories =>
    exact Or.inr ⟨rewrite_of_forall_ne (by simp [hc]), Or.inr ⟨[], by simp [track, hc]⟩⟩
  | custom check =>
    exact Or.inr ⟨rewrite_of_forall_ne (by simp [hc]), Or.inr ⟨[], by simp [track, hc]⟩⟩

/-- A rule that finds nothing leaves the values as they are. -/
theorem Rule.map_track_of_validate (hb : r.IsBuiltIn)
    (h : r.validate (vs.map Tracked.value) files = .ok []) :
    (r.track vs).map Tracked.value = vs.map Tracked.value := by
  cases hc : r.constraint with
  | each test =>
    rw [track, hc, List.map_map]
    refine List.map_congr_left fun v hv => ?_
    by_cases hw : r.IsWorded
    · exact (rewrite_of_isWorded hw _).trans
        (mend_of_validate hc h _ (List.mem_map_of_mem hv))
    · exact rewrite_of_not_isWorded hw _
  | allowMultiple delimiter =>
    cases ha : r.applicability with
    | always => rw [track, hc, ha]
    | never =>
      rw [validate, hc, ha, report_eq_nil_iff, List.range'_eq_nil_iff, List.length_map] at h
      simp only [track, hc, ha]
      rw [List.take_of_length_le (by omega)]
  | presence texts =>
    cases ha : r.applicability with
    | always =>
      rw [validate, hc, ha, report_eq_nil_iff] at h
      have hmissing : missing texts (vs.map Tracked.value) = [] := by simpa using h
      simp [track, hc, ha, hmissing]
    | never =>
      have hnone := (validate_ban_eq_nil_iff hc ha).mp h
      simp only [track, hc, ha]
      rw [List.filter_eq_self.mpr]
      exact fun v hv => by simpa using hnone v.value (List.mem_map_of_mem hv)
  | alignment directories => rw [track, hc]
  | custom check => exact absurd hc (hb check)

/-- A repair by a worded rule leaves the values that the rule makes. -/
theorem Rule.fix_eq (hb : r.IsBuiltIn) (hw : r.IsWorded) (vs : List Tracked)
    (files : Option ChangedFiles) :
    ∃ left, r.fix (vs.map Tracked.value) files = .ok (left, (r.track vs).map Tracked.value) := by
  cases hc : r.constraint with
  | each test =>
    have hmap : (r.track vs).map Tracked.value = (vs.map Tracked.value).map r.mend := by
      rw [track, hc, List.map_map, List.map_map]
      exact List.map_congr_left fun v _ => rewrite_of_isWorded hw v.value
    obtain ⟨left, -, hfix⟩ := hw.exists_fix_each hc (vs.map Tracked.value) files
    exact ⟨left, hmap ▸ hfix⟩
  | allowMultiple delimiter =>
    cases ha : r.applicability with
    | always => exact ⟨[], by simp [fix, track, hc, ha]⟩
    | never => exact ⟨[], by simp [fix, track, hc, ha, List.map_take]⟩
  | presence texts =>
    cases ha : r.applicability with
    | always =>
      refine ⟨[], ?_⟩
      simp [fix, track, hc, ha, Function.comp_def]
    | never =>
      refine ⟨[], ?_⟩
      simp [fix, track, hc, ha, List.filter_map, Function.comp_def]
  | alignment directories =>
    obtain ⟨left, hleft⟩ := hb.exists_validate hw (vs.map Tracked.value) files
    exact ⟨left, by rw [fix, track, hc]; simp only [hleft]; rfl⟩
  | custom check => exact absurd hc (hb check)

/-- A rule that is not worded leaves the values as they are. -/
theorem Rule.map_track_of_not_isWorded (hw : ¬r.IsWorded) (vs : List Tracked) :
    (r.track vs).map Tracked.value = vs.map Tracked.value := by
  obtain ⟨test, hc⟩ := exists_each_of_not_isWorded hw
  rw [track, hc, List.map_map]
  exact List.map_congr_left fun v _ => rewrite_of_not_isWorded hw v.value

theorem output_step_true (hb : r.IsBuiltIn) (hs : r.severity ≠ .disabled)
    (files : Option ChangedFiles) {e : Evaluation} (he : e.output = vs.map Tracked.value) :
    (Engine.step true files e r).output = (r.track vs).map Tracked.value := by
  unfold Engine.step Rule.check
  rw [he, if_neg hs]
  -- A check that breaks down hands the values on, and so does a rule that is not worded.
  by_cases hw : r.IsWorded
  · obtain ⟨found, hfound⟩ := hb.exists_validate hw (vs.map Tracked.value) files
    obtain ⟨left, hleft⟩ := Rule.fix_eq hb hw vs files
    rw [hfound]
    cases found with
    | nil => exact (Rule.map_track_of_validate hb hfound).symm
    | cons f fs =>
      simp only [hleft, bind, Except.bind, List.isEmpty_cons, Bool.false_eq_true, if_false, if_true]
      exact Rule.output_outcome r _ left
  · rw [Rule.map_track_of_not_isWorded hw]
    rcases Rule.validate_of_not_isWorded hw (vs.map Tracked.value) files with hfound | hfault
    · rw [hfound]
      rfl
    · rw [hfault]
      exact he

end Rules

/-- An evaluation with repairs leaves the values that its rules make. -/
theorem output_evaluate_true {e : Engine}
    (h : ∀ rule ∈ e.rules, rule.2.IsBuiltIn ∧ rule.2.severity ≠ .disabled) (values : List Text)
    (files : Option ChangedFiles) : (e.evaluate values true files).output =
      (trackAll (e.rules.map Prod.snd) values).map Tracked.value := by
  have hfold : ∀ (rules : List Rule) (e : Evaluation) (vs : List Tracked),
      (∀ r ∈ rules, r.IsBuiltIn ∧ r.severity ≠ .disabled) → e.output = vs.map Tracked.value →
      (rules.foldl (Engine.step true files) e).output =
        (rules.foldl (fun vs r => r.track vs) vs).map Tracked.value := by
    intro rules
    induction rules with
    | nil => exact fun e vs _ he => he
    | cons r rules ih =>
      intro e vs hrules he
      obtain ⟨hb, hs⟩ := hrules r List.mem_cons_self
      exact ih _ _ (fun q hq => hrules q (List.mem_cons_of_mem r hq))
        (output_step_true hb hs files he)
  refine hfold _ _ _ ?_ ?_
  · intro r hr
    obtain ⟨rule, hrule, rfl⟩ := List.mem_map.mp hr
    exact h rule hrule
  · refine List.ext_getElem (by simp) fun i _ _ => ?_
    simp

/-- Whether a value that began at an index is what the rules make of the text there. -/
def Tracked.IsMade (rules : List Rule) (texts : List Text) (v : Tracked) : Prop :=
  ∀ i, v.origin = some i → ∃ s, texts[i]? = some s ∧ v.value = rewriteAll rules s

/-- Whether a value stands before another one where values keep their order. Added values come
last. -/
def Tracked.Before (v w : Tracked) : Prop := ∀ j, w.origin = some j → ∃ i < j, v.origin = some i

section Runs

variable {rules done : List Rule} {texts : List Text} {vs : List Tracked}

theorem isMade_of_mem_track (r : Rule) (h : ∀ v ∈ vs, v.IsMade done texts) :
    ∀ v ∈ r.track vs, v.IsMade (done ++ [r]) texts := by
  have hmade : ∀ v ∈ vs, (Tracked.mk v.origin (r.rewrite v.value)).IsMade (done ++ [r]) texts := by
    intro v hv i hi
    obtain ⟨s, hs, hvalue⟩ := h v hv i hi
    refine ⟨s, hs, ?_⟩
    rw [rewriteAll, List.foldl_concat, ← rewriteAll, hvalue]
  intro v hv
  -- A rule that moves values rewrites none of them, so that what they are made of stays the same.
  rcases r.track_cases vs with hmap | ⟨hsame, ⟨-, hsub⟩ | ⟨added, hadded⟩⟩
  · rw [hmap] at hv
    obtain ⟨w, hw, rfl⟩ := List.mem_map.mp hv
    exact hmade w hw
  · have hv := hmade v (hsub.subset hv)
    rwa [hsame] at hv
  · rw [hadded] at hv
    rcases List.mem_append.mp hv with hv | hv
    · have hv := hmade v hv
      rwa [hsame] at hv
    · obtain ⟨s, -, rfl⟩ := List.mem_map.mp hv
      exact fun i hi => absurd hi (by simp)

/-- What is left of a text is what the rules make of it. -/
theorem isMade_of_mem_trackAll (rules : List Rule) (texts : List Text) :
    ∀ v ∈ trackAll rules texts, v.IsMade rules texts := by
  have hfold : ∀ (rules done : List Rule) (vs : List Tracked), (∀ v ∈ vs, v.IsMade done texts) →
      ∀ v ∈ rules.foldl (fun vs r => r.track vs) vs, v.IsMade (done ++ rules) texts := by
    intro rules
    induction rules with
    | nil => simp
    | cons r rules ih =>
      intro done vs h
      rw [← List.singleton_append, ← List.append_assoc]
      exact ih _ _ (isMade_of_mem_track r h)
  refine hfold rules [] _ ?_
  intro v hv i hi
  obtain ⟨j, hj, rfl⟩ := List.mem_mapIdx.mp hv
  obtain rfl := Option.some.inj hi
  exact ⟨texts[j], List.getElem?_eq_getElem hj, rfl⟩

theorem pairwise_track (r : Rule) (h : vs.Pairwise Tracked.Before) :
    (r.track vs).Pairwise Tracked.Before := by
  rcases r.track_cases vs with hmap | ⟨-, ⟨-, hsub⟩ | ⟨added, hadded⟩⟩
  · rw [hmap, List.pairwise_map]
    exact h
  · exact h.sublist hsub
  · rw [hadded, List.pairwise_append]
    refine ⟨h, List.pairwise_map.mpr (List.pairwise_of_forall fun _ _ => ?_), ?_⟩
    · exact fun j hj => absurd hj (by simp)
    · intro v _ w hw
      obtain ⟨s, -, rfl⟩ := List.mem_map.mp hw
      exact fun j hj => absurd hj (by simp)

/-- Values keep their order. -/
theorem pairwise_trackAll (rules : List Rule) (texts : List Text) :
    (trackAll rules texts).Pairwise Tracked.Before := by
  refine List.foldlRecOn rules _ ?_ fun vs h r _ => pairwise_track r h
  rw [List.pairwise_iff_getElem]
  intro i j hi hj hij k hk
  rw [List.getElem_mapIdx] at hk ⊢
  obtain rfl := Option.some.inj hk
  exact ⟨i, hij, rfl⟩

end Runs

end CommitStandard
