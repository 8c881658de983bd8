import Mathlib.Tactic
import CommitStandard.Proofs.Engine.Configured
import CommitStandard.Proofs.Rule.Strict

/-!
# Evaluation without repairs

Without repairs an evaluation hands every rule the values that it was given, and
records all violations by the severities of the rules, and each breakdown as an
error (`evaluate_eq_recordedAs`). If it records nothing, then an evaluation with
repairs does the same (`evaluate_true_of_clean`). The messages of what is recorded
are in the order of the values (`messages_perm`).
-/
namespace CommitStandard

/-- Elements in groups by a key, one group for each key, are the elements. -/
theorem flatMap_filter_perm {α κ : Type*} [DecidableEq κ] (key : α → κ) (ks : List κ)
    (hd : ks.Nodup) {l : List α} (hk : ∀ x ∈ l, key x ∈ ks) :
    (ks.flatMap fun k => l.filter fun x => key x = k).Perm l := by
  induction ks generalizing l with
  | nil =>
    rw [List.eq_nil_iff_forall_not_mem.mpr fun x hx => absurd (hk x hx) (by simp)]
    exact List.Perm.refl []
  | cons k ks ih =>
    obtain ⟨hnot, hks⟩ := List.nodup_cons.mp hd
    have hother : (ks.flatMap fun j => l.filter fun x => key x = j) =
        ks.flatMap fun j => (l.filter fun x => !decide (key x = k)).filter fun x => key x = j := by
      refine List.flatMap_congr fun j hj => ?_
      rw [List.filter_filter]
      refine List.filter_congr fun x _ => ?_
      by_cases hx : key x = j
      · have hne : key x ≠ k := fun h0 => hnot (h0 ▸ hx ▸ hj)
        simp [hx, hx ▸ hne]
      · simp [hx]
    have hrest := ih hks (l := l.filter fun x => !decide (key x = k)) fun x hx => by
      obtain ⟨hx, hne⟩ := List.mem_filter.mp hx
      exact (List.mem_cons.mp (hk x hx)).resolve_left (by simpa using hne)
    rw [List.flatMap_cons, hother]
    exact (hrest.append_left _).trans (List.filter_append_perm _ l)

namespace Violations

theorem pairwise_insertIndex {index : Nat} {is : List Nat} (h : is.Pairwise (· < ·)) :
    (insertIndex index is).Pairwise (· < ·) := by
  induction is with
  | nil => simp [insertIndex]
  | cons i is ih =>
    obtain ⟨hlt, his⟩ := List.pairwise_cons.mp h
    rw [insertIndex]
    split
    · rename_i hi
      refine List.pairwise_cons.mpr ⟨?_, h⟩
      intro j hj
      rcases List.mem_cons.mp hj with rfl | hj
      · exact hi
      · exact hi.trans (hlt j hj)
    · split
      · exact h
      · rename_i hi hne
        refine List.pairwise_cons.mpr ⟨?_, ih his⟩
        intro j hj
        rcases mem_insertIndex.mp hj with rfl | hj
        · omega
        · exact hlt j hj

theorem pairwise_sortIndexes (is : List Nat) : (sortIndexes is).Pairwise (· < ·) := by
  induction is with
  | nil => exact List.Pairwise.nil
  | cons i is ih => exact pairwise_insertIndex ih

theorem nodup_sortIndexes (is : List Nat) : (sortIndexes is).Nodup :=
  (pairwise_sortIndexes is).imp fun h => Nat.ne_of_lt h

theorem messagesAt_eq (v : Violations) (index : Nat) :
    v.messagesAt index = (v.recorded.filter fun f => f.1 = index).map Prod.snd := by
  rw [messagesAt]
  induction v.recorded with
  | nil => rfl
  | cons f fs ih => by_cases h : f.1 = index <;> simp [h, ih]

/-- The messages by index are the recorded ones if no index is left out. -/
theorem flatMap_messagesAt_perm (v : Violations) {is : List Nat} (hd : is.Nodup)
    (h : ∀ f ∈ v.recorded, f.1 ∈ is) :
    (is.flatMap v.messagesAt).Perm (v.recorded.map Prod.snd) := by
  have hmap : is.flatMap v.messagesAt =
      (is.flatMap fun i => v.recorded.filter fun f => f.1 = i).map Prod.snd := by
    rw [List.map_flatMap]
    exact List.flatMap_congr fun i _ => v.messagesAt_eq i
  rw [hmap]
  exact (flatMap_filter_perm Prod.fst is hd h).map Prod.snd

theorem mem_indexes {v : Violations} {f : Finding} (h : f ∈ v.recorded) : f.1 ∈ v.indexes :=
  mem_sortIndexes.mpr (List.mem_map_of_mem h)

theorem messages_perm (v : Violations) : v.messages.Perm (v.recorded.map Prod.snd) :=
  v.flatMap_messagesAt_perm (nodup_sortIndexes _) fun _ => mem_indexes

end Violations

section Rules

variable {values : List Text} {files : Option ChangedFiles}

theorem Rule.check_false (r : Rule) (values : List Text) (files : Option ChangedFiles) :
    r.check values false files =
      if r.severity = .disabled then .ok ⟨values, [], []⟩
      else (r.validate values files).map (r.outcome values) := by
  unfold Rule.check
  split
  · rfl
  · cases hv : r.validate values files with
    | error fault => rfl
    | ok found =>
      cases found with
      | nil => simp [Rule.outcome, Except.map, bind, Except.bind, pure, Except.pure]
      | cons f fs => rfl

@[simp] theorem Rule.output_outcome (r : Rule) (output : List Text) (found : List Finding) :
    (r.outcome output found).output = output := by
  unfold Rule.outcome
  split <;> rfl

theorem Rule.check_true_of_validate {r : Rule} (h : r.validate values files = .ok []) :
    r.check values true files = .ok ⟨values, [], []⟩ := by
  unfold Rule.check
  split
  · rfl
  · rw [h]
    rfl

/-- What is recorded of a rule whose check breaks down. -/
def Rule.breakdown (r : Rule) (fault : Fault) : Finding :=
  (0, Violations.label r.part 0 (r.id ++ " failed: ".toList ++ fault.message))

/-- What a rule records without repairs as violations of a severity. A check that breaks down is
an error of the first value, whatever the severity of the rule. -/
def Rule.recordedAs (r : Rule) (σ : Severity) (values : List Text)
    (files : Option ChangedFiles) : Violations :=
  if r.severity = .disabled then .none
  else match r.validate values files with
    | .ok found => if r.severity = σ then Violations.none.record r.part found else .none
    | .error fault =>
      if σ = .error then
        Violations.none.record r.part [(0, r.id ++ " failed: ".toList ++ fault.message)]
      else .none

/-- Without repairs a rule changes no value and adds what it records. -/
theorem step_false (files : Option ChangedFiles) (e : Evaluation) (r : Rule) :
    Engine.step false files e r =
      ⟨e.output, ⟨e.errors.recorded ++ (r.recordedAs .error e.output files).recorded⟩,
        ⟨e.warnings.recorded ++ (r.recordedAs .warning e.output files).recorded⟩⟩ := by
  unfold Engine.step Rule.recordedAs
  rw [Rule.check_false]
  cases hs : r.severity <;> cases hv : r.validate e.output files <;>
    simp [hs, Engine.record, Except.map, Rule.outcome, Violations.record, Violations.none]

theorem foldl_step_false (files : Option ChangedFiles) (rules : List Rule) (e : Evaluation) :
    rules.foldl (Engine.step false files) e =
      ⟨e.output,
        ⟨e.errors.recorded ++ rules.flatMap fun r => (r.recordedAs .error e.output files).recorded⟩,
        ⟨e.warnings.recorded ++
          rules.flatMap fun r => (r.recordedAs .warning e.output files).recorded⟩⟩ := by
  induction rules generalizing e with
  | nil => simp
  | cons r rules ih =>
    rw [List.foldl_cons, ih, step_false, List.flatMap_cons, List.flatMap_cons, List.append_assoc,
      List.append_assoc]

/-- A rule that records nothing does nothing with repairs either. -/
theorem step_true_of_recordedAs {e : Evaluation} {r : Rule}
    (herror : (r.recordedAs .error e.output files).recorded = [])
    (hwarning : (r.recordedAs .warning e.output files).recorded = []) :
    Engine.step true files e r = e := by
  unfold Engine.step
  by_cases hs : r.severity = .disabled
  · rw [Rule.check, if_pos hs]
    simp [Engine.record]
  · rw [Rule.recordedAs, if_neg hs] at herror hwarning
    cases hv : r.validate e.output files with
    | error fault => simp [hv, Violations.none, Violations.record] at herror
    | ok found =>
      have hfound : found = [] := by
        cases hsev : r.severity with
        | disabled => exact absurd hsev hs
        | warning => simpa [hv, hsev, Violations.none, Violations.record] using hwarning
        | error => simpa [hv, hsev, Violations.none, Violations.record] using herror
      rw [Rule.check_true_of_validate (hfound ▸ hv), Engine.record, Violations.record_nil,
        Violations.record_nil]

namespace Engine

variable (e : Engine) (values : List Text) (files : Option ChangedFiles)

/-- Without repairs every rule is run on the values that were given. -/
theorem evaluate_eq_recordedAs : e.evaluate values false files =
    ⟨values,
      ⟨(e.rules.map Prod.snd).flatMap fun r => (r.recordedAs .error values files).recorded⟩,
      ⟨(e.rules.map Prod.snd).flatMap fun r => (r.recordedAs .warning values files).recorded⟩⟩ := by
  rw [evaluate, foldl_step_false]
  rfl

@[simp] theorem output_evaluate_false : (e.evaluate values false files).output = values := by
  rw [evaluate_eq_recordedAs]

/-- Where checking finds nothing, repairing changes nothing. -/
theorem evaluate_true_of_clean (herrors : (e.evaluate values false files).errors.isEmpty = true)
    (hwarnings : (e.evaluate values false files).warnings.isEmpty = true) :
    e.evaluate values true files = e.evaluate values false files := by
  simp only [evaluate_eq_recordedAs, Violations.isEmpty, List.isEmpty_iff] at herrors hwarnings
  rw [evaluate_eq_recordedAs, evaluate, herrors, hwarnings]
  rw [List.flatMap_eq_nil_iff] at herrors hwarnings
  refine List.foldlRecOn (motive := fun found : Evaluation => found = ⟨values, .none, .none⟩)
    (e.rules.map Prod.snd) _ rfl ?_
  rintro found rfl r hr
  exact step_true_of_recordedAs (herrors r hr) (hwarnings r hr)

end Engine

/-- What a rule records without repairs, whatever its severity: its violations, each with the index
and the labelled message, or that its check broke down. -/
def Rule.labelled (r : Rule) (values : List Text) (files : Option ChangedFiles) : List Finding :=
  match r.validate values files with
  | .ok found => found.map fun f => (f.1, Violations.label r.part f.1 f.2)
  | .error fault => [r.breakdown fault]

theorem Rule.labelled_eq_nil_iff {r : Rule} :
    r.labelled values files = [] ↔ r.validate values files = .ok [] := by
  unfold labelled
  cases r.validate values files <;> simp

section Enabled

variable {r : Rule} (h : r.severity ≠ .disabled)

include h

/-- Nothing is recorded both as an error and as a warning. -/
theorem Rule.recordedAs_error_append_warning (values : List Text) (files : Option ChangedFiles) :
    (r.recordedAs .error values files).recorded ++ (r.recordedAs .warning values files).recorded =
      r.labelled values files := by
  unfold recordedAs labelled
  rw [if_neg h, if_neg h]
  cases hv : r.validate values files with
  | error fault => simp [Violations.record, Violations.none, breakdown]
  | ok found =>
    cases hs : r.severity with
    | disabled => exact absurd hs h
    | warning => simp [Violations.record, Violations.none]
    | error => simp [Violations.record, Violations.none]

/-- A rule records no error exactly if its check has an answer, and none but a warning. -/
theorem Rule.recordedAs_error_eq_nil_iff : (r.recordedAs .error values files).recorded = [] ↔
    ∃ found, r.validate values files = .ok found ∧ (r.severity = .error → found = []) := by
  unfold recordedAs
  rw [if_neg h]
  cases hv : r.validate values files with
  | error fault => simp [Violations.record, Violations.none]
  | ok found =>
    by_cases hs : r.severity = .error <;> simp [hs, Violations.record, Violations.none]

end Enabled

/-- What rules record without repairs as violations of a severity. -/
def labelledOf (σ : Severity) (rules : List Rule) (values : List Text)
    (files : Option ChangedFiles) : List Finding :=
  rules.flatMap fun r => (r.recordedAs σ values files).recorded

end Rules

end CommitStandard
