import Mathlib.Tactic
import CommitStandard.Proofs.Namespace.Alignment

/-!
# Rules that can be written as sentences

A violation quotes its rule as a sentence, and the sentence names the limit of the rule, if it has
one. A rule is worded if its limit has no more digits than a number may have where it is written
(`Rule.isWorded_iff`). Any other rule breaks down as soon as it has something to report
(`Rule.report_of_not_isWorded`), and as long as it has not, it is as good as a worded one
(`Rule.report_eq_nil_iff`). Of the built-in checks, those of worded rules never break down
(`Rule.IsBuiltIn.exists_validate`), and all others find nothing or break down
(`Rule.validate_of_not_isWorded`).
-/
namespace CommitStandard

theorem exists_map_eq_ok_iff {ε α β : Type} {x : Except ε α} {f : α → β} :
    (∃ b, x.map f = .ok b) ↔ ∃ a, x = .ok a := by
  cases x <;> simp [Except.map]

theorem mapError_eq_ok_iff {ε ε' α : Type} {x : Except ε α} {f : ε → ε'} {a : α} :
    x.mapError f = .ok a ↔ x = .ok a := by
  cases x <;> simp [Except.mapError]

/-- The number that a rule with the test names. -/
def Test.limit? : Test → Option Int
  | maxLength limit | minLength limit | maxLineLength limit => some limit
  | _ => none

/-- Whether the limit of a test, if it has one, can be written. -/
def Test.IsWorded (t : Test) : Prop :=
  ∀ limit, t.limit? = some limit → limit.natAbs < Text.unwritable

theorem Test.isWorded_iff {t : Test} : t.IsWorded ↔ ∃ s, t.predicate = .ok s := by
  have hnumeral (limit : Int) (f : Text → Text) :
      (∃ s, (do return f (← Text.ofInt limit)) = Except.ok (ε := Text.DigitExcess) s) ↔
        limit.natAbs < Text.unwritable :=
    exists_map_eq_ok_iff.trans (Text.exists_ofInt_iff limit)
  have hlimit (limit : Int) : (∀ l, some limit = some l → l.natAbs < Text.unwritable) ↔
      limit.natAbs < Text.unwritable :=
    ⟨fun h => h limit rfl, fun h _ hl => Option.some.inj hl ▸ h⟩
  cases t with
  | maxLength limit => exact (hlimit limit).trans (hnumeral limit _).symm
  | minLength limit => exact (hlimit limit).trans (hnumeral limit _).symm
  | maxLineLength limit => exact (hlimit limit).trans (hnumeral limit _).symm
  | _ => exact iff_of_true (by simp [IsWorded, limit?]) ⟨_, rfl⟩

instance (t : Test) : Decidable t.IsWorded :=
  decidable_of_iff (t.predicate.isOk = true) <| by
    rw [Test.isWorded_iff]
    cases t.predicate <;> simp [Except.isOk, Except.toBool]

namespace Rule

/-- Whether the limit of a rule, if it has one, can be written. -/
def IsWorded (r : Rule) : Prop :=
  ∀ test, r.constraint = .each test → test.IsWorded

def IsBuiltIn (r : Rule) : Prop := ∀ check, r.constraint ≠ .custom check

variable {r : Rule} {values : List Text} {files : Option ChangedFiles} {indexes : List Nat}

/-- A rule is worded exactly if it can be written as a sentence. -/
theorem isWorded_iff : r.IsWorded ↔ ∃ s, r.describe = .ok s := by
  have hpredicate : r.IsWorded ↔ ∃ s, r.constraint.predicate r.applicability = .ok s := by
    unfold IsWorded
    cases r.constraint with
    | each test =>
      exact ⟨fun h => Test.isWorded_iff.mp (h test rfl),
        fun h t ht => Constraint.each.inj ht ▸ Test.isWorded_iff.mpr h⟩
    | _ => exact iff_of_true (by simp) ⟨_, rfl⟩
  simp only [hpredicate, ← mapError_eq_ok_iff (f := Fault.digits)]
  exact exists_map_eq_ok_iff.symm

instance (r : Rule) : Decidable r.IsWorded :=
  decidable_of_iff (r.describe.isOk = true) <| by
    rw [isWorded_iff]
    cases r.describe <;> simp [Except.isOk, Except.toBool]

theorem IsWorded.exists_describe (h : r.IsWorded) : ∃ s, r.describe = .ok s := isWorded_iff.mp h

theorem isWorded_of_forall_ne (h : ∀ test, r.constraint ≠ .each test) : r.IsWorded :=
  fun test hc => absurd hc (h test)

theorem isWorded_each {test : Test} (hc : r.constraint = .each test) :
    r.IsWorded ↔ test.IsWorded := by
  simp [IsWorded, hc]

theorem describe_of_not_isWorded (h : ¬r.IsWorded) : r.describe = .error (.digits {}) := by
  rw [isWorded_iff, describe] at h
  rw [describe]
  cases hp : r.constraint.predicate r.applicability with
  | error e => rfl
  | ok s => simp [hp, bind, Except.bind, Except.mapError, pure, Except.pure] at h

/-! ## Reports -/

theorem report_of_describe {sentence : Text} (h : r.describe = .ok sentence)
    (indexes : List Nat) : r.report indexes = .ok (indexes.map fun i => (i, sentence)) := by
  rw [report, h]
  exact List.mapM_pure

theorem report_of_not_isWorded (h : ¬r.IsWorded) (hne : indexes ≠ []) :
    r.report indexes = .error (.digits {}) := by
  obtain ⟨i, is, rfl⟩ := List.exists_cons_of_ne_nil hne
  rw [report, List.mapM_cons, describe_of_not_isWorded h]
  rfl

/-- There is nothing to report exactly if nothing is reported. -/
theorem report_eq_nil_iff : r.report indexes = .ok [] ↔ indexes = [] := by
  constructor
  · intro h
    by_contra hne
    by_cases hw : r.IsWorded
    · obtain ⟨sentence, hs⟩ := hw.exists_describe
      rw [report_of_describe hs, Except.ok.injEq, List.map_eq_nil_iff] at h
      exact hne h
    · rw [report_of_not_isWorded hw hne] at h
      cases h
  · rintro rfl
    rfl

/-! ## Built-in checks -/

theorem validate_each {test : Test} (hc : r.constraint = .each test) (values : List Text)
    (files : Option ChangedFiles) :
    r.validate values files = r.report (r.violating test (testedValues test values)) := by
  rw [validate, hc]

/-- Only where there are no values another list is tested. -/
theorem testedValues_of_ne_nil (test : Test) (h : values ≠ []) :
    testedValues test values = values := by
  obtain ⟨s, values, rfl⟩ := List.exists_cons_of_ne_nil h
  cases test <;> rfl

/-- A violation names the index of a value that does not comply. -/
theorem mem_violating_iff {test : Test} {i : Nat} : i ∈ r.violating test values ↔
    ∃ s, values[i]? = some s ∧ r.complies test s = false := by
  constructor
  · intro hi
    obtain ⟨⟨s, j⟩, hs, hfound⟩ := List.mem_filterMap.mp hi
    dsimp only at hfound
    split at hfound
    · cases hfound
    · rename_i hno
      obtain rfl := Option.some.inj hfound
      exact ⟨s, List.mk_mem_zipIdx_iff_getElem?.mp hs, by simpa using hno⟩
  · rintro ⟨s, hs, hno⟩
    refine List.mem_filterMap.mpr ⟨(s, i), List.mk_mem_zipIdx_iff_getElem?.mpr hs, ?_⟩
    exact if_neg (by simp [hno])

theorem violating_eq_nil_iff {test : Test} :
    r.violating test values = [] ↔ ∀ s ∈ values, r.complies test s = true := by
  rw [List.eq_nil_iff_forall_not_mem]
  simp only [mem_violating_iff, not_exists, not_and, Bool.not_eq_false]
  refine ⟨fun h s hs => ?_, fun h i s hi => h s (List.mem_of_getElem? hi)⟩
  obtain ⟨i, hi⟩ := List.mem_iff_getElem?.mp hs
  exact h i s hi

/-- Only tests of single values have limits. -/
theorem exists_each_of_not_isWorded (h : ¬r.IsWorded) : ∃ test, r.constraint = .each test := by
  by_contra hnone
  exact h (isWorded_of_forall_ne (not_exists.mp hnone))

theorem IsWorded.exists_report (h : r.IsWorded) (indexes : List Nat) :
    ∃ found, r.report indexes = .ok found ∧ found.map Prod.fst = indexes := by
  obtain ⟨sentence, hs⟩ := h.exists_describe
  exact ⟨_, report_of_describe hs indexes, by simp [Function.comp_def]⟩

/-- Where values are banned, a check finds each of them. -/
theorem validate_ban {banned : List Text} (hc : r.constraint = .presence banned)
    (ha : r.applicability = .never) {sentence : Text} (hs : r.describe = .ok sentence) :
    r.validate values files = .ok
      ((values.zipIdx.filter fun v => banned.contains (Text.strip v.1)).map fun v =>
        (v.2, "Forbidden value: ".toList ++ Text.quoted (Text.strip v.1) ++ " - ".toList ++
          sentence)) := by
  rw [validate, hc, ha]
  dsimp only
  rw [hs]
  exact List.mapM_pure

theorem validate_ban_eq_nil_iff {banned : List Text} (hc : r.constraint = .presence banned)
    (ha : r.applicability = .never) :
    r.validate values files = .ok [] ↔ ∀ s ∈ values, Text.strip s ∉ banned := by
  obtain ⟨sentence, hs⟩ := (isWorded_of_forall_ne (r := r) (by simp [hc])).exists_describe
  rw [validate_ban hc ha hs, Except.ok.injEq, List.map_eq_nil_iff, List.filter_eq_nil_iff]
  constructor
  · intro h s hmem
    obtain ⟨i, hi⟩ := List.mem_iff_getElem?.mp hmem
    simpa using h (s, i) (List.mk_mem_zipIdx_iff_getElem?.mpr hi)
  · rintro h ⟨s, i⟩ hmem
    simpa using h s (List.fst_mem_of_mem_zipIdx hmem)

/-- The built-in check of a worded rule never breaks down. -/
theorem IsBuiltIn.exists_validate (h : r.IsBuiltIn) (hw : r.IsWorded) (values : List Text)
    (files : Option ChangedFiles) : ∃ found, r.validate values files = .ok found := by
  obtain ⟨sentence, hs⟩ := hw.exists_describe
  have hreport (indexes : List Nat) : ∃ found, r.report indexes = .ok found :=
    ⟨_, report_of_describe hs indexes⟩
  cases hc : r.constraint with
  | each test =>
    rw [validate_each hc]
    exact hreport _
  | allowMultiple delimiter =>
    rw [validate, hc]
    cases r.applicability with
    | always => exact ⟨_, rfl⟩
    | never => exact hreport _
  | presence texts =>
    cases ha : r.applicability with
    | always =>
      rw [validate, hc, ha]
      exact hreport _
    | never => exact ⟨_, validate_ban hc ha hs⟩
  | alignment directories =>
    rw [validate, hc]
    cases r.applicability with
    | never => exact ⟨_, rfl⟩
    | always =>
      rcases files with _ | _ | ⟨path, paths⟩
      · exact ⟨_, rfl⟩
      · exact ⟨_, rfl⟩
      · dsimp only
        rw [alignmentError?_eq]
        exact ⟨_, rfl⟩
  | custom check => exact absurd hc (h check)

/-- The check of a rule that is not worded finds nothing or breaks down. -/
theorem validate_of_not_isWorded (h : ¬r.IsWorded) (values : List Text)
    (files : Option ChangedFiles) :
    r.validate values files = .ok [] ∨ r.validate values files = .error (.digits {}) := by
  obtain ⟨test, hc⟩ := exists_each_of_not_isWorded h
  rw [validate_each hc]
  by_cases hnone : r.violating test (testedValues test values) = []
  · exact Or.inl (report_eq_nil_iff.mpr hnone)
  · exact Or.inr (report_of_not_isWorded h hnone)

/-! ## A limit that cannot be written -/

section Unwritable

variable {limit : Nat} (hlimit : Text.unwritable ≤ limit)
  (hc : r.constraint = .each (.minLength limit))

include hlimit hc

theorem not_isWorded_minLength : ¬r.IsWorded := by
  intro h
  have hlt : limit < Text.unwritable := h _ hc limit rfl
  omega

/-- The check of a value that is too short for the limit breaks down. -/
theorem validate_minLength_of_always (ha : r.applicability = .always) {s : Text}
    (hs : s.length < limit) (files : Option ChangedFiles) :
    r.validate [s] files = .error (.digits {}) := by
  have hshort : r.complies (.minLength limit) s = false := by
    simp [complies, accepts, Test.holds, ha, hs]
  rw [validate_each hc, testedValues_of_ne_nil _ (by simp)]
  refine report_of_not_isWorded (not_isWorded_minLength hlimit hc) fun hnone => ?_
  rw [violating_eq_nil_iff.mp hnone s List.mem_cons_self] at hshort
  cases hshort

end Unwritable

/-- Where the limit is forbidden, a value that is too short for it is all right. -/
theorem validate_minLength_of_never {limit : Nat} (hc : r.constraint = .each (.minLength limit))
    (ha : r.applicability = .never) {s : Text} (hs : s.length < limit)
    (files : Option ChangedFiles) : r.validate [s] files = .ok [] := by
  have hshort : r.complies (.minLength limit) s = true := by
    rw [complies, Test.holds, accepts, ha, decide_eq_false (by omega)]
    rfl
  rw [validate_each hc, testedValues_of_ne_nil _ (by simp), report_eq_nil_iff,
    violating_eq_nil_iff]
  exact List.forall_mem_singleton.mpr hshort

end Rule

end CommitStandard
