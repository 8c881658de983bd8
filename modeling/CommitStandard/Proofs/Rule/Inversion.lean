import Mathlib.Tactic
import CommitStandard.Proofs.Rule.Repairing

/-!
# Demanding and forbidding the same

A test has an answer for every value, except that some tests have none for the empty value, which
they leave to the rule on emptiness (`Test.holds_eq_none_iff`). A value violates the demand for what
is tested if the answer is no, and the ban on it if the answer is yes. Of two rules that demand and
forbid the same, each value with an answer therefore violates exactly one
(`Rule.validate_always_never`).
-/
namespace CommitStandard

/-- Whether rules of a kind leave empty values to the rule on emptiness. -/
def Kind.leavesEmpty : Kind → Bool
  | .fullStop | .leadingBlank | .letterCase | .enum => true
  | _ => false

theorem Test.holds_eq_none_iff {test : Test} {s : Text} :
    test.holds s = none ↔ test.kind.leavesEmpty = true ∧ s = [] := by
  cases test <;> simp [holds, kind, Kind.leavesEmpty]

/-- All kinds but three test every value alone. -/
theorem Constraint.exists_each_of_ofValue? {kind : Kind} {value : Value} {c : Constraint}
    (h : ofValue? kind value = some c)
    (hkind : kind ∉ [Kind.allowMultiple, Kind.presence, Kind.alignment]) :
    ∃ test : Test, c = .each test ∧ test.kind = kind := by
  cases kind with
  | allowMultiple | presence | alignment => exact absurd (by simp) hkind
  | empty | trim | exclamationMark | leadingBlank =>
    obtain rfl := Option.some.inj h
    exact ⟨_, rfl, rfl⟩
  | fullStop | maxLength | minLength | maxLineLength | letterCase | enum =>
    obtain ⟨_, -, rfl⟩ := Option.map_eq_some_iff.mp h
    exact ⟨_, rfl, rfl⟩

section Violations

variable {r : Rule} {test : Test} {values : List Text} {s : Text} {i : Nat}

/-- A demand is violated by the answer no, and a ban by the answer yes. -/
theorem Rule.complies_eq_false_iff :
    r.complies test s = false ↔ test.holds s = some (r.applicability != .always) := by
  rw [complies]
  cases test.holds s with
  | none => simp [accepts]
  | some answer => cases answer <;> cases h : r.applicability <;> simp [accepts, h]

theorem Rule.mem_violating_iff_holds : i ∈ r.violating test values ↔
    ∃ s, values[i]? = some s ∧ test.holds s = some (r.applicability != .always) := by
  simp only [mem_violating_iff, complies_eq_false_iff]

end Violations

/-- Whether a check reports violations at just the indexes. Where there are some, a rule that is
not worded breaks down instead. -/
def Rule.ReportsAt (r : Rule) (values : List Text) (files : Option ChangedFiles)
    (indexes : List Nat) : Prop :=
  if r.IsWorded ∨ indexes = [] then
    ∃ found, r.validate values files = .ok found ∧ found.map Prod.fst = indexes
  else r.validate values files = .error (.digits {})

theorem Rule.reportsAt_violating {r : Rule} {test : Test} (hc : r.constraint = .each test)
    (values : List Text) (files : Option ChangedFiles) :
    r.ReportsAt values files (r.violating test (testedValues test values)) := by
  unfold ReportsAt
  rw [validate_each hc]
  split
  case isTrue h =>
    rcases h with hw | hnone
    · exact hw.exists_report _
    · exact ⟨[], report_eq_nil_iff.mpr hnone, hnone.symm⟩
  case isFalse h =>
    rw [not_or] at h
    exact report_of_not_isWorded h.1 h.2

/-- For every kind of rule that tests values alone, and every value that it can have, no value of
a part violates both the demand and the ban, and those that violate one of them are all values, or
all that are not empty where the kind leaves those alone. A worded rule reports just the values
that violate it; one that is not worded breaks down unless there are none. -/
theorem Rule.validate_always_never {kind : Kind} {value : Value} {c : Constraint}
    (h : Constraint.ofValue? kind value = some c)
    (hkind : kind ∉ [Kind.allowMultiple, Kind.presence, Kind.alignment]) (part : Text)
    (severity : Severity) {values : List Text} (hne : values ≠ []) (files : Option ChangedFiles) :
    ∃ missed banned,
      (Rule.mk part severity .always c).ReportsAt values files missed ∧
      (Rule.mk part severity .never c).ReportsAt values files banned ∧
      missed.Disjoint banned ∧
      ∀ i, i ∈ missed ∨ i ∈ banned ↔
        ∃ s, values[i]? = some s ∧ (kind.leavesEmpty = true → s ≠ []) := by
  obtain ⟨test, rfl, rfl⟩ := Constraint.exists_each_of_ofValue? h hkind
  have htested : testedValues test values = values := testedValues_of_ne_nil test hne
  refine ⟨_, _, reportsAt_violating rfl values files, reportsAt_violating rfl values files, ?_,
    fun i => ?_⟩
  · rw [List.disjoint_left, htested]
    intro i hmissed hbanned
    obtain ⟨s, hs, hno⟩ := mem_violating_iff_holds.mp hmissed
    obtain ⟨t, ht, hyes⟩ := mem_violating_iff_holds.mp hbanned
    obtain rfl := Option.some.inj (hs.symm.trans ht)
    exact absurd (hno.symm.trans hyes) (by simp)
  · have hanswer : ∀ s, (test.kind.leavesEmpty = true → s ≠ []) ↔
        test.holds s = some false ∨ test.holds s = some true := by
      intro s
      rw [← not_iff_not, Classical.not_imp, not_not, ← Test.holds_eq_none_iff]
      rcases test.holds s with _ | _ | _ <;> simp
    rw [htested, mem_violating_iff_holds, mem_violating_iff_holds, ← exists_or]
    simp only [hanswer, ← and_or_left]
    rfl

/-- Types that a rule can demand or forbid. -/
def twoTypes : Value := Value.ofTexts ["feat".toList, "fix".toList]

theorem Rule.validate_always_never_twoTypes :
    ∃ c, Constraint.ofValue? .enum twoTypes = some c ∧ Kind.leavesEmpty .enum = true ∧
      (Rule.mk "type".toList .error .always c).IsWorded ∧
      ∃ missed banned,
        (Rule.mk "type".toList .error .always c).ReportsAt
          ["feat".toList, [], "oops".toList] none missed ∧
        (Rule.mk "type".toList .error .never c).ReportsAt
          ["feat".toList, [], "oops".toList] none banned ∧
        missed.Disjoint banned ∧
        ∀ i, i ∈ missed ∨ i ∈ banned ↔
          ∃ s, ["feat".toList, [], "oops".toList][i]? = some s ∧
            (Kind.leavesEmpty .enum = true → s ≠ []) := by
  have hvalue : Constraint.ofValue? .enum twoTypes =
      some (.each (.enum ["feat".toList, "fix".toList])) := rfl
  exact ⟨_, hvalue, rfl, by decide,
    validate_always_never hvalue (by decide) "type".toList .error (by decide) none⟩

/-- A value that is too short for a limit that cannot be written is reported neither where the
limit is demanded nor where it is forbidden. -/
theorem Rule.validate_always_never_unwritable :
    ∃ c, Constraint.ofValue? .minLength (.int (Text.unwritable : Nat)) = some c ∧
      (Rule.mk "subject".toList .error .always c).validate ["Add parser".toList] none =
        .error (.digits {}) ∧
      (Rule.mk "subject".toList .error .never c).validate ["Add parser".toList] none = .ok [] := by
  have hshort : "Add parser".toList.length < Text.unwritable :=
    (by decide : (Test.minLength 10).IsWorded) 10 rfl
  have hvalue : ∀ limit : Nat, Constraint.ofValue? .minLength (.int limit) =
      some (.each (.minLength limit)) := by
    intro limit
    simp [Constraint.ofValue?, Constraint.count?]
  exact ⟨_, hvalue Text.unwritable, validate_minLength_of_always le_rfl rfl rfl hshort none,
    validate_minLength_of_never rfl rfl hshort none⟩

end CommitStandard
