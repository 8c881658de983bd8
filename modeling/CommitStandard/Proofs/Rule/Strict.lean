import Mathlib.Tactic
import CommitStandard.Engine.Basic
import CommitStandard.Proofs.Rule.Wording

/-!
# Strict rules on one value

A strict rule tests a value and counts a violation as an error. It leaves a value
that meets the test, as it is or repaired, or it finds an error (`Test.leave?`),
provided that it is worded.
Strict rules in a row hand the value on (`leaveAll?`), and an evaluation finds no
error exactly if each of them leaves a value (`foldl_strict`).
-/
namespace CommitStandard

/-- Whether a value is as a test demands or forbids. -/
def Test.met (a : Applicability) (t : Test) (s : Text) : Bool :=
  match t.holds s with
  | none => true
  | some holds => holds == (a == .always)

/-- The value that a strict rule leaves, if it is left without an error. -/
def Test.leave? (fix : Bool) (a : Applicability) (t : Test) (s : Text) : Option Text :=
  if t.met a s then some s
  else if fix then
    match t.repair? a with
    | some repair =>
      match repair s with
      | .ok repaired => if t.met a repaired then some repaired else none
      | .error _ => none
    | none => none
  else none

/-- The value that strict rules in a row leave, if it is left without an error. -/
def leaveAll? (fix : Bool) : List (Applicability × Test) → Text → Option Text
  | [], s => some s
  | (a, t) :: ts, s => (t.leave? fix a s).bind (leaveAll? fix ts)

section Leaving

variable {fix : Bool} {a : Applicability} {t : Test} {s s' : Text}

/-- Whatever a strict rule leaves is as it demands. -/
theorem met_of_leave? (h : t.leave? fix a s = some s') : t.met a s' = true := by
  unfold Test.leave? at h
  by_cases hs : t.met a s = true
  · rw [if_pos hs, Option.some.injEq] at h
    rw [← h]
    exact hs
  · rw [if_neg hs] at h
    split at h
    · split at h
      · split at h
        · split at h
          · rename_i hr
            rw [← Option.some.inj h]
            exact hr
          · exact absurd h (by simp)
        · exact absurd h (by simp)
      · exact absurd h (by simp)
    · exact absurd h (by simp)

/-- A test that cannot be repaired leaves the values that meet it. -/
theorem leave?_of_repair?_eq_none (hr : fix = false ∨ t.repair? a = none) :
    t.leave? fix a s = some s' ↔ t.met a s = true ∧ s' = s := by
  unfold Test.leave?
  by_cases hs : t.met a s = true
  · rw [if_pos hs, Option.some.injEq]
    simp [hs, eq_comm]
  · rw [if_neg hs]
    rcases hr with hr | hr
    · rw [hr, if_neg (by simp)]
      simp [hs]
    · rw [hr]
      simp [hs]

/-- A repair is tried where the test is not met. -/
theorem leave?_true_of_repair? {repair : Text → Except Text.InvalidWidth Text}
    (hr : t.repair? a = some repair) (h : t.leave? true a s = some s') :
    s' = s ∧ t.met a s = true ∨ repair s = .ok s' ∧ t.met a s' = true := by
  have hmet := met_of_leave? h
  unfold Test.leave? at h
  by_cases hs : t.met a s = true
  · rw [if_pos hs, Option.some.injEq] at h
    exact Or.inl ⟨h.symm, hs⟩
  · rw [if_neg hs, if_pos rfl, hr] at h
    right
    refine ⟨?_, hmet⟩
    simp only at h
    split at h
    · rename_i repaired hrep
      split at h
      · rw [hrep, Option.some.inj h]
      · exact absurd h (by simp)
    · exact absurd h (by simp)

/-- Without repairs a value has to meet every test. -/
theorem leaveAll?_false_eq_some_iff {ts : List (Applicability × Test)} :
    leaveAll? false ts s = some s' ↔ (∀ t ∈ ts, t.2.met t.1 s = true) ∧ s' = s := by
  induction ts with
  | nil =>
    rw [leaveAll?, Option.some.injEq]
    constructor
    · intro h
      exact ⟨by simp, h.symm⟩
    · rintro ⟨-, h⟩
      exact h.symm
  | cons at' ts ih =>
    obtain ⟨a, t⟩ := at'
    rw [leaveAll?, Option.bind_eq_some_iff]
    constructor
    · rintro ⟨u, hu, hs⟩
      obtain ⟨hmet, rfl⟩ := (leave?_of_repair?_eq_none (Or.inl rfl)).mp hu
      obtain ⟨hall, rfl⟩ := ih.mp hs
      refine ⟨?_, rfl⟩
      intro at' hat
      rcases List.mem_cons.mp hat with rfl | hat
      · exact hmet
      · exact hall at' hat
    · rintro ⟨hall, rfl⟩
      refine ⟨s', (leave?_of_repair?_eq_none (Or.inl rfl)).mpr ⟨?_, rfl⟩, ih.mpr ⟨?_, rfl⟩⟩
      · exact hall (a, t) List.mem_cons_self
      · exact fun at' hat => hall at' (List.mem_cons_of_mem _ hat)

theorem isSome_leaveAll?_false_iff {ts : List (Applicability × Test)} :
    (leaveAll? false ts s).isSome = true ↔ ∀ t ∈ ts, t.2.met t.1 s = true := by
  rw [Option.isSome_iff_exists]
  constructor
  · rintro ⟨t, ht⟩
    exact (leaveAll?_false_eq_some_iff.mp ht).1
  · intro h
    exact ⟨s, leaveAll?_false_eq_some_iff.mpr ⟨h, rfl⟩⟩

end Leaving

/-- A rule that tests every value alone and counts violations as errors. -/
def Rule.strict (part : Text) (a : Applicability) (t : Test) : Rule := ⟨part, .error, a, .each t⟩

section Checking

variable {part : Text} {a : Applicability} {t : Test} {s : Text} {fix : Bool}
  {files : Option ChangedFiles} {sentence : Text}

/-- What a strict rule that is written as a sentence has to say of a value. -/
def findings (sentence : Text) (a : Applicability) (t : Test) (s : Text) : List Finding :=
  if t.met a s then [] else [(0, sentence)]

theorem findings_of_met (h : t.met a s = true) : findings sentence a t s = [] := if_pos h

theorem findings_of_not_met (h : ¬t.met a s = true) :
    findings sentence a t s = [(0, sentence)] := if_neg h

theorem isWorded_strict : (Rule.strict part a t).IsWorded ↔ t.IsWorded :=
  Rule.isWorded_each rfl

/-- A strict rule has something to report exactly if its test is not met. -/
theorem validate_strict (part : Text) (a : Applicability) (t : Test) (s : Text)
    (files : Option ChangedFiles) : (Rule.strict part a t).validate [s] files =
      (Rule.strict part a t).report (if t.met a s then [] else [0]) := by
  have htested : Rule.testedValues t [s] = [s] := Rule.testedValues_of_ne_nil t (by simp)
  have hmet : (Rule.strict part a t).complies t s = t.met a s := rfl
  rw [Rule.validate_each rfl, htested]
  cases h : t.met a s <;> simp [Rule.violating, hmet, h]

theorem check_of_met (h : t.met a s = true) :
    (Rule.strict part a t).check [s] fix files = .ok ⟨[s], [], []⟩ := by
  rw [Rule.check, if_neg (by simp [Rule.strict]), validate_strict, if_pos h]
  rfl

/-- A strict rule that is not worded breaks down where its test is not met. -/
theorem check_of_not_isWorded (hw : ¬t.IsWorded) (h : ¬t.met a s = true) :
    (Rule.strict part a t).check [s] fix files = .error (.digits {}) := by
  rw [Rule.check, if_neg (by simp [Rule.strict]), validate_strict, if_neg h,
    Rule.report_of_not_isWorded (mt isWorded_strict.mp hw) (by simp)]
  rfl

section Worded

variable (hw : (Rule.strict part a t).describe = .ok sentence)

include hw

theorem validate_strict_of_describe (s : Text) (files : Option ChangedFiles) :
    (Rule.strict part a t).validate [s] files = .ok (findings sentence a t s) := by
  rw [validate_strict, Rule.report_of_describe hw, findings]
  split <;> rfl

theorem check_false (h : ¬t.met a s = true) :
    (Rule.strict part a t).check [s] false files = .ok ⟨[s], findings sentence a t s, []⟩ := by
  rw [Rule.check, if_neg (by simp [Rule.strict]), validate_strict_of_describe hw,
    findings_of_not_met h]
  rfl

theorem check_true (h : ¬t.met a s = true) :
    (Rule.strict part a t).check [s] true files =
      ((Rule.strict part a t).fix [s] files).map fun r => ⟨r.2, r.1, []⟩ := by
  rw [Rule.check, if_neg (by simp [Rule.strict]), validate_strict_of_describe hw,
    findings_of_not_met h]
  show ((Rule.strict part a t).fix [s] files).bind _ = _
  cases (Rule.strict part a t).fix [s] files <;> rfl

theorem fix_of_repair?_eq_none (h : t.repair? a = none) :
    (Rule.strict part a t).fix [s] files = .ok (findings sentence a t s, [s]) := by
  have hfix : (Rule.strict part a t).fix [s] files =
      ((Rule.strict part a t).validate [s] none).map fun found => (found, [s]) := by
    simp only [Rule.fix, Rule.strict, h]
    rfl
  rw [hfix, validate_strict_of_describe hw]
  rfl

theorem fix_of_repair? {repair : Text → Except Text.InvalidWidth Text}
    (h : t.repair? a = some repair) (hs : ¬t.met a s = true) :
    (Rule.strict part a t).fix [s] files =
      ((repair s).mapError .width).map fun u => (findings sentence a t u, [u]) := by
  have hcomplies : (Rule.strict part a t).complies t s = t.met a s := rfl
  have hrepair : (Rule.strict part a t).repairEach t repair [s] =
      ((repair s).mapError .width).map fun u => [u] := by
    simp only [Rule.repairEach, List.mapM_cons, List.mapM_nil, hcomplies, if_neg hs]
    cases repair s <;> rfl
  have hfix : (Rule.strict part a t).fix [s] files =
      ((Rule.strict part a t).repairEach t repair [s]).bind fun us =>
        ((Rule.strict part a t).validate us none).map fun found => (found, us) := by
    simp only [Rule.fix, Rule.strict, h]
    rfl
  rw [hfix, hrepair]
  cases repair s with
  | error e => rfl
  | ok u =>
    have hvalid := validate_strict_of_describe hw u none
    simp only [Except.mapError, Except.map, Except.bind, hvalid]

end Worded

/-- The check of a strict rule gives the value that is left, or an error. -/
theorem check_strict (part : Text) (hw : t.IsWorded) (files : Option ChangedFiles) :
    (∀ s', t.leave? fix a s = some s' →
      (Rule.strict part a t).check [s] fix files = .ok ⟨[s'], [], []⟩) ∧
    (t.leave? fix a s = none →
      (∃ e, (Rule.strict part a t).check [s] fix files = .error e) ∨
      ∃ out found, (Rule.strict part a t).check [s] fix files = .ok ⟨out, [found], []⟩) := by
  have hworded : (Rule.strict part a t).IsWorded := isWorded_strict.mpr hw
  obtain ⟨sentence, hw⟩ := hworded.exists_describe
  unfold Test.leave?
  by_cases hs : t.met a s = true
  · rw [if_pos hs, check_of_met hs]
    exact ⟨fun s' h => by rw [Option.some.inj h], fun h => absurd h (by simp)⟩
  rw [if_neg hs]
  cases fix with
  | false =>
    rw [check_false hw hs, findings_of_not_met hs]
    exact ⟨fun s' h => absurd h (by simp), fun _ => Or.inr ⟨_, _, rfl⟩⟩
  | true =>
    rw [if_pos rfl, check_true hw hs]
    cases hr : t.repair? a with
    | none =>
      rw [fix_of_repair?_eq_none hw hr, findings_of_not_met hs]
      exact ⟨fun s' h => absurd h (by simp), fun _ => Or.inr ⟨_, _, rfl⟩⟩
    | some repair =>
      rw [fix_of_repair? hw hr hs]
      cases hu : repair s with
      | error e => exact ⟨fun s' h => absurd h (by simp [hu]), fun _ => Or.inl ⟨_, rfl⟩⟩
      | ok u =>
        simp only [hu]
        by_cases hmet : t.met a u = true
        · rw [if_pos hmet]
          refine ⟨fun s' h => ?_, fun h => absurd h (by simp)⟩
          rw [← Option.some.inj h]
          show Except.ok (⟨[u], findings sentence a t u, []⟩ : Rule.Outcome) = _
          rw [findings_of_met hmet]
        · rw [if_neg hmet]
          refine ⟨fun s' h => absurd h (by simp), fun _ =>
            Or.inr ⟨[u], (0, sentence), ?_⟩⟩
          show Except.ok (⟨[u], findings sentence a t u, []⟩ : Rule.Outcome) = _
          rw [findings_of_not_met hmet]

end Checking

section Evaluating

variable {part : Text} {fix : Bool} {files : Option ChangedFiles} {e : Evaluation} {s : Text}

/-- Errors stay. -/
theorem errors_step (r : Rule) (h : e.errors.isEmpty = false) :
    (Engine.step fix files e r).errors.isEmpty = false := by
  unfold Engine.step
  have hrecord : ∀ (p : Text) (fs : List Finding), (e.errors.record p fs).isEmpty = false := by
    intro p fs
    rw [Violations.isEmpty, List.isEmpty_eq_false_iff] at h ⊢
    rw [Violations.recorded_record]
    exact List.append_ne_nil_of_left_ne_nil h _
  cases r.check e.output fix files <;> exact hrecord _ _

theorem errors_foldl (rules : List Rule) (h : e.errors.isEmpty = false) :
    (rules.foldl (Engine.step fix files) e).errors.isEmpty = false := by
  induction rules generalizing e with
  | nil => exact h
  | cons r rules ih => exact ih (errors_step r h)

/-- A strict rule hands on the value that it leaves, or records an error. -/
theorem step_strict {a : Applicability} {t : Test} (hw : t.IsWorded) (h : e.output = [s]) :
    (∀ s', t.leave? fix a s = some s' →
      Engine.step fix files e (Rule.strict part a t) = { e with output := [s'] }) ∧
    (t.leave? fix a s = none →
      (Engine.step fix files e (Rule.strict part a t)).errors.isEmpty = false) := by
  obtain ⟨hsome, hnone⟩ := @check_strict a t s fix part hw files
  unfold Engine.step
  rw [h]
  constructor
  · intro s' hs'
    rw [hsome s' hs', Engine.record, Violations.record_nil, Violations.record_nil]
  · intro hl
    rcases hnone hl with ⟨fault, hf⟩ | ⟨out, found, hf⟩
    · rw [hf, Engine.record, Violations.isEmpty, Violations.recorded_record]
      simp
    · rw [hf, Engine.record, Violations.isEmpty, Violations.recorded_record]
      simp

/-- Strict rules leave a value together, or an error is recorded. -/
theorem foldl_strict (part : Text) {ts : List (Applicability × Test)}
    (hw : ∀ t ∈ ts, t.2.IsWorded) (h : e.output = [s]) :
    (∀ s', leaveAll? fix ts s = some s' →
      (ts.map fun t => Rule.strict part t.1 t.2).foldl (Engine.step fix files) e =
        { e with output := [s'] }) ∧
    (leaveAll? fix ts s = none →
      ((ts.map fun t => Rule.strict part t.1 t.2).foldl (Engine.step fix files) e).errors.isEmpty =
        false) := by
  induction ts generalizing e s with
  | nil =>
    refine ⟨fun s' hs' => ?_, fun hs' => absurd hs' (by simp [leaveAll?])⟩
    rw [← Option.some.inj hs', ← h]
    rfl
  | cons at' ts ih =>
    obtain ⟨a, t⟩ := at'
    obtain ⟨hsome, hnone⟩ := @step_strict part fix files e s a t (hw _ List.mem_cons_self) h
    rw [leaveAll?, List.map_cons, List.foldl_cons]
    cases hl : t.leave? fix a s with
    | none =>
      refine ⟨fun s' hs' => absurd hs' (by simp), fun _ => ?_⟩
      exact errors_foldl _ (hnone hl)
    | some u =>
      rw [hsome u hl, Option.bind_some]
      exact ih (fun t ht => hw t (List.mem_cons_of_mem _ ht)) rfl

end Evaluating

namespace Violations

theorem mem_insertIndex {i j : Nat} {is : List Nat} :
    i ∈ insertIndex j is ↔ i = j ∨ i ∈ is := by
  induction is with
  | nil => simp [insertIndex]
  | cons k is ih =>
    rw [insertIndex]
    split
    · simp
    · split
      · rename_i h
        simp [h]
      · rw [List.mem_cons, ih, List.mem_cons]
        tauto

theorem mem_sortIndexes {i : Nat} {is : List Nat} : i ∈ sortIndexes is ↔ i ∈ is := by
  induction is with
  | nil => simp [sortIndexes]
  | cons j is ih =>
    have hcons : sortIndexes (j :: is) = insertIndex j (sortIndexes is) := rfl
    rw [hcons, mem_insertIndex, ih, List.mem_cons]

/-- There is a message for every violation. -/
theorem isEmpty_messages (v : Violations) : v.messages.isEmpty = v.isEmpty := by
  obtain ⟨recorded⟩ := v
  cases recorded with
  | nil => rfl
  | cons f fs =>
    have hindex : f.1 ∈ indexes ⟨f :: fs⟩ := mem_sortIndexes.mpr (by simp)
    have hmessage : f.2 ∈ messagesAt ⟨f :: fs⟩ f.1 := by simp [messagesAt]
    have hne : messages ⟨f :: fs⟩ ≠ [] :=
      List.ne_nil_of_mem (List.mem_flatMap.mpr ⟨f.1, hindex, hmessage⟩)
    rw [List.isEmpty_eq_false_iff.mpr hne]
    rfl

end Violations

end CommitStandard
