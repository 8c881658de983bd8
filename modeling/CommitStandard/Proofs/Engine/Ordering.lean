import Mathlib.Tactic
import CommitStandard.Proofs.Engine.Checking

/-!
# The order of the rules

Without repairs no rule sees what another one does, so that an evaluation records of
every rule what it records on its own, one rule after the other. Rules in another
order therefore give the same verdict and the same violations, and only the messages
about one value may change their places (`evaluate_anyOrder`).
-/
namespace CommitStandard

namespace Violations

theorem sortIndexes_congr {is js : List Nat} (h : ∀ i, i ∈ is ↔ i ∈ js) :
    sortIndexes is = sortIndexes js := by
  have hmem : ∀ i, i ∈ sortIndexes is ↔ i ∈ sortIndexes js := by
    intro i
    rw [mem_sortIndexes, mem_sortIndexes]
    exact h i
  -- Increasing lists with the same elements are the same.
  refine List.Perm.eq_of_pairwise ?_ (pairwise_sortIndexes is) (pairwise_sortIndexes js)
    ((List.perm_ext_iff_of_nodup (nodup_sortIndexes is) (nodup_sortIndexes js)).mpr hmem)
  intro i j _ _ hij hji
  exact absurd hij (Nat.lt_asymm hji)

/-- Violations that differ at most in the order of the messages about the same value. -/
structure Rearranges (v w : Violations) : Prop where
  count : v.count = w.count
  indexes : v.indexes = w.indexes
  messagesAt : ∀ index, (v.messagesAt index).Perm (w.messagesAt index)

theorem rearranges_of_perm {v w : Violations} (h : v.recorded.Perm w.recorded) :
    v.Rearranges w where
  count := h.length_eq
  indexes := sortIndexes_congr fun _ => (h.map Prod.fst).mem_iff
  messagesAt := fun _ => h.filterMap _

theorem Rearranges.isEmpty_eq {v w : Violations} (h : v.Rearranges w) :
    v.isEmpty = w.isEmpty := by
  have hlength : v.recorded.length = w.recorded.length := h.count
  rw [Bool.eq_iff_iff, isEmpty, isEmpty, List.isEmpty_iff_length_eq_zero,
    List.isEmpty_iff_length_eq_zero, hlength]

/-- The messages about a value are those of the parts that make up the violations. -/
theorem messagesAt_flatMap {α : Type} (part : α → Violations) (xs : List α) (index : Nat) :
    (mk (xs.flatMap fun x => (part x).recorded)).messagesAt index =
      xs.flatMap fun x => (part x).messagesAt index :=
  List.filterMap_flatMap

end Violations

namespace Engine

/-- Without repairs an evaluation leaves the values alone and lists the violations of each value
rule by rule; a check that breaks down counts as an error of the first value. In whatever order
the rules are run, the verdict, the number of violations and the values with violations stay, and
so do the messages about each value, but for their order. -/
theorem evaluate_anyOrder (e : Engine) (values : List Text) (files : Option ChangedFiles) :
    (e.evaluate values false files).output = values ∧
      (∀ index, (e.evaluate values false files).errors.messagesAt index =
        (e.rules.map Prod.snd).flatMap fun r =>
          (r.recordedAs .error values files).messagesAt index) ∧
      (∀ index, (e.evaluate values false files).warnings.messagesAt index =
        (e.rules.map Prod.snd).flatMap fun r =>
          (r.recordedAs .warning values files).messagesAt index) ∧
      ∀ other : Engine, other.rules.Perm e.rules →
        (other.evaluate values false files).output = (e.evaluate values false files).output ∧
          (other.evaluate values false files).isValid = (e.evaluate values false files).isValid ∧
          (other.evaluate values false files).errors.Rearranges
            (e.evaluate values false files).errors ∧
          (other.evaluate values false files).warnings.Rearranges
            (e.evaluate values false files).warnings := by
  refine ⟨e.output_evaluate_false values files, fun index => ?_, fun index => ?_,
    fun other hperm => ?_⟩
  · rw [evaluate_eq_recordedAs]
    exact Violations.messagesAt_flatMap _ _ index
  · rw [evaluate_eq_recordedAs]
    exact Violations.messagesAt_flatMap _ _ index
  · have hrules : (other.rules.map Prod.snd).Perm (e.rules.map Prod.snd) := hperm.map Prod.snd
    have herrors : (other.evaluate values false files).errors.Rearranges
        (e.evaluate values false files).errors := by
      rw [evaluate_eq_recordedAs, evaluate_eq_recordedAs]
      exact Violations.rearranges_of_perm (hrules.flatMap_right _)
    have hwarnings : (other.evaluate values false files).warnings.Rearranges
        (e.evaluate values false files).warnings := by
      rw [evaluate_eq_recordedAs, evaluate_eq_recordedAs]
      exact Violations.rearranges_of_perm (hrules.flatMap_right _)
    refine ⟨?_, herrors.isEmpty_eq, herrors, hwarnings⟩
    rw [output_evaluate_false, output_evaluate_false]

/-- Rules of which one breaks down although it only warns. -/
def faltering : Engine :=
  ⟨[("subject-empty".toList, ⟨"subject".toList, .warning, .always, .custom
      ⟨.empty, "explode".toList, fun _ _ => .error (.other "boom".toList),
        fun _ _ => .error (.other "boom".toList)⟩⟩),
    ("subject-min-length".toList, ⟨"subject".toList, .error, .always, .each (.minLength 8)⟩),
    ("subject-full-stop".toList, ⟨"subject".toList, .warning, .never, .each (.fullStop ['.'])⟩)]⟩

theorem evaluate_anyOrder_faltering :
    (⟨faltering.rules.reverse⟩ : Engine).rules.Perm faltering.rules ∧
      (faltering.evaluate ["Add X.".toList] false none).errors.messagesAt 0 =
        ["[subject:0] subject-empty failed: boom".toList,
          "[subject:0] The subject must always be at least 8 characters long".toList] ∧
      (⟨faltering.rules.reverse⟩ : Engine).evaluate ["Add X.".toList] false none ≠
        faltering.evaluate ["Add X.".toList] false none ∧
      ((⟨faltering.rules.reverse⟩ : Engine).evaluate ["Add X.".toList] false none).isValid =
        (faltering.evaluate ["Add X.".toList] false none).isValid ∧
      ((⟨faltering.rules.reverse⟩ : Engine).evaluate ["Add X.".toList] false
        none).errors.Rearranges (faltering.evaluate ["Add X.".toList] false none).errors := by
  have hperm : (⟨faltering.rules.reverse⟩ : Engine).rules.Perm faltering.rules :=
    List.reverse_perm _
  obtain ⟨-, -, -, horder⟩ := evaluate_anyOrder faltering ["Add X.".toList] none
  obtain ⟨-, hvalid, herrors, -⟩ := horder _ hperm
  exact ⟨hperm, by decide +kernel, by decide +kernel, hvalid, herrors⟩

end Engine

end CommitStandard
