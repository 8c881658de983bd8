import Mathlib.Tactic
import CommitStandard.Rule.Basic

/-!
# Alignment with the changed files

The namespaces of files are collected without repetition, so that two lists of the
same files touch the same namespaces. Of the checks that a rule about alignment makes,
the one for a single namespace adds nothing to the other (`alignmentError?_eq`).
`validate_alignment` says when the rule is content: only the set of the namespaces
that the files touch and the declared namespace count.
-/
namespace CommitStandard

namespace Resolver

section Collecting

variable {items names : List Text} {item name : Text}

theorem mem_addNew : name ∈ addNew names item ↔ name ∈ names ∨ name = item := by
  unfold addNew
  split
  · rename_i hold
    refine ⟨Or.inl, ?_⟩
    rintro (h | rfl)
    · exact h
    · exact hold
  · rw [List.mem_append, List.mem_singleton]

theorem nodup_addNew (h : names.Nodup) : (addNew names item).Nodup := by
  unfold addNew
  split
  · exact h
  · rename_i hnew
    rw [List.nodup_append]
    refine ⟨h, by simp, ?_⟩
    rintro a ha b hb rfl
    exact hnew (List.mem_singleton.mp hb ▸ ha)

theorem mem_foldl_addNew : name ∈ items.foldl addNew names ↔ name ∈ names ∨ name ∈ items := by
  induction items generalizing names with
  | nil => simp
  | cons item items ih => rw [List.foldl_cons, ih, mem_addNew, List.mem_cons, or_assoc]

theorem nodup_foldl_addNew (h : names.Nodup) : (items.foldl addNew names).Nodup := by
  induction items generalizing names with
  | nil => exact h
  | cons item items ih => exact ih (nodup_addNew h)

end Collecting

def touched (r : Resolver) (files : List Text) : Set Text :=
  {name | ∃ file ∈ files, r.namespaceOf? file = some name}

section Checks

variable {r : Resolver} {files : List Text} {name declared : Text}

theorem mem_namespacesOf : name ∈ r.namespacesOf files ↔ name ∈ r.touched files := by
  rw [namespacesOf, mem_foldl_addNew, List.mem_filterMap]
  simp [touched]

theorem nodup_namespacesOf (r : Resolver) (files : List Text) : (r.namespacesOf files).Nodup :=
  nodup_foldl_addNew List.nodup_nil

theorem namespacesOf_eq_nil_iff : r.namespacesOf files = [] ↔ r.touched files = ∅ := by
  rw [List.eq_nil_iff_forall_not_mem, Set.eq_empty_iff_forall_notMem]
  simp only [mem_namespacesOf]

theorem namespacesOf_eq_singleton_iff :
    r.namespacesOf files = [name] ↔ r.touched files = {name} := by
  constructor
  · intro h
    ext n
    rw [← mem_namespacesOf, h, List.mem_singleton, Set.mem_singleton_iff]
  · intro h
    refine List.perm_singleton.mp ?_
    rw [List.perm_ext_iff_of_nodup (nodup_namespacesOf r files) (List.nodup_singleton name)]
    intro n
    rw [mem_namespacesOf, h, List.mem_singleton, Set.mem_singleton_iff]

/-- Lists of the same files touch the same namespaces. -/
theorem touched_congr {others : List Text} (h : ∀ file, file ∈ others ↔ file ∈ files) :
    r.touched others = r.touched files := by
  simp only [touched, h]

/-- Files of several namespaces are aligned with none, for the same reason as they are not of a
single one. -/
theorem checkAlignment_of_checkSingle (declared : Text) (h : (r.checkSingle files).valid = false) :
    r.checkAlignment declared files = r.checkSingle files := by
  unfold checkSingle at h
  unfold checkAlignment
  match hn : r.namespacesOf files with
  | [] | [_] =>
    rw [hn] at h
    cases h
  | _ :: _ :: _ => rfl

/-- Only an alignment that is not valid has errors. -/
theorem errors_checkAlignment_eq_nil_iff :
    (r.checkAlignment declared files).errors = [] ↔
      (r.checkAlignment declared files).valid = true := by
  unfold checkAlignment
  split
  · split <;> simp only [List.cons_ne_nil, Bool.false_eq_true]
  · dsimp only
    split
    · simp only [List.cons_ne_nil, Bool.false_eq_true]
    · split <;> simp only [List.cons_ne_nil, Bool.false_eq_true]
  · unfold checkSingle
    dsimp only
    split <;> simp only [List.cons_ne_nil, Bool.false_eq_true]

/-- A namespace is aligned with files that touch no other one, and no namespace with files that
touch none. -/
theorem valid_checkAlignment_iff :
    (r.checkAlignment declared files).valid = true ↔
      declared = [] ∧ r.touched files = ∅ ∨ declared ≠ [] ∧ r.touched files = {declared} := by
  rw [← namespacesOf_eq_nil_iff, ← namespacesOf_eq_singleton_iff]
  match hn : r.namespacesOf files with
  | [] =>
    unfold checkAlignment
    rw [hn]
    cases declared with
    | nil => exact iff_of_true rfl (Or.inl ⟨rfl, rfl⟩)
    | cons c cs => exact iff_of_false Bool.false_ne_true (by simp)
  | [required] =>
    unfold checkAlignment
    rw [hn]
    cases declared with
    | nil => exact iff_of_false Bool.false_ne_true (by simp)
    | cons c cs =>
      simp only [List.isEmpty_cons, Bool.false_eq_true, if_false]
      split
      · rename_i hne
        exact iff_of_false Bool.false_ne_true (by simp [Ne.symm hne])
      · rename_i heq
        rw [ne_eq, not_not] at heq
        exact iff_of_true rfl (Or.inr ⟨List.cons_ne_nil c cs, by rw [heq]⟩)
  | a :: b :: ns =>
    have hsingle : (r.checkSingle files).valid = false := by
      unfold checkSingle
      rw [hn]
      rfl
    rw [checkAlignment_of_checkSingle declared hsingle, hsingle]
    exact iff_of_false Bool.false_ne_true (by simp)

end Checks

end Resolver

namespace Rule

section Alignment

variable {r : Rule} {directories values : List Text} {files : ChangedFiles}

/-- Where a check has errors, the rule need not be written as a sentence. -/
theorem firstError_eq {check : NamespaceCheck} (h : check.errors ≠ []) :
    some <$> r.firstError check = .ok check.errors.head? := by
  obtain ⟨e, es, hes⟩ := List.exists_cons_of_ne_nil h
  simp only [firstError, hes, List.head?_cons]
  rfl

/-- A rule about alignment reports the first error of the check for alignment. -/
theorem alignmentError?_eq : r.alignmentError? directories values files =
    .ok ((Resolver.ofPatterns directories).checkAlignment (Text.strip (values.headD []))
      files).errors.head? := by
  unfold alignmentError?
  dsimp only
  split
  · split
    · rename_i hvalid
      rw [Resolver.errors_checkAlignment_eq_nil_iff.mpr hvalid]
      rfl
    · rename_i hinvalid
      exact firstError_eq (mt Resolver.errors_checkAlignment_eq_nil_iff.mp hinvalid)
  · rename_i hsingle
    rw [Bool.not_eq_true] at hsingle
    have haligned := Resolver.checkAlignment_of_checkSingle (Text.strip (values.headD [])) hsingle
    have hinvalid : ¬ ((Resolver.ofPatterns directories).checkAlignment
        (Text.strip (values.headD [])) files).valid = true := by
      rw [haligned, hsingle]
      simp
    rw [← haligned]
    exact firstError_eq (mt Resolver.errors_checkAlignment_eq_nil_iff.mp hinvalid)

/-- A rule that demands alignment reports the first error of the check for alignment, and is
content exactly if the part declares no namespace and the files touch none, or the part declares
the only one that they touch. Neither the order of the files nor their repetition counts, and the
check for a single namespace fails only where the check for alignment does, with the same
outcome. -/
theorem validate_alignment (hc : r.constraint = .alignment directories)
    (ha : r.applicability = .always) (hf : files ≠ []) (values : List Text) :
    let resolver := Resolver.ofPatterns directories
    let declared := Text.strip (values.headD [])
    r.validate values (some files) =
        .ok ((resolver.checkAlignment declared files).errors.head?.toList.map fun e => (0, e)) ∧
      (r.validate values (some files) = .ok [] ↔
        declared = [] ∧ resolver.touched files = ∅ ∨
          declared ≠ [] ∧ resolver.touched files = {declared}) ∧
      (∀ others : ChangedFiles, (∀ file, file ∈ others ↔ file ∈ files) →
        (r.validate values (some others) = .ok [] ↔ r.validate values (some files) = .ok [])) ∧
      ∀ name, (resolver.checkSingle files).valid = false →
        resolver.checkAlignment name files = resolver.checkSingle files := by
  intro resolver declared
  have hvalidate : ∀ fs : ChangedFiles, fs ≠ [] → r.validate values (some fs) =
      .ok ((resolver.checkAlignment declared fs).errors.head?.toList.map fun e => (0, e)) := by
    intro fs hfs
    obtain ⟨file, fs, rfl⟩ := List.exists_cons_of_ne_nil hfs
    unfold validate
    rw [hc, ha]
    dsimp only
    rw [alignmentError?_eq]
    rfl
  have hcontent : ∀ fs : ChangedFiles, fs ≠ [] → (r.validate values (some fs) = .ok [] ↔
      (resolver.checkAlignment declared fs).valid = true) := by
    intro fs hfs
    rw [hvalidate fs hfs, Except.ok.injEq, List.map_eq_nil_iff, Option.toList_eq_nil_iff,
      List.head?_eq_none_iff, Resolver.errors_checkAlignment_eq_nil_iff]
  refine ⟨hvalidate files hf, (hcontent files hf).trans Resolver.valid_checkAlignment_iff,
    fun others hsame => ?_, fun name => Resolver.checkAlignment_of_checkSingle name⟩
  have hothers : others ≠ [] := by
    obtain ⟨file, hfile⟩ := List.exists_mem_of_ne_nil files hf
    exact List.ne_nil_of_mem ((hsame file).mpr hfile)
  rw [hcontent others hothers, hcontent files hf, Resolver.valid_checkAlignment_iff,
    Resolver.valid_checkAlignment_iff, Resolver.touched_congr hsame]

/-- Files of the application `web`, and one outside every application. -/
def webFiles : ChangedFiles :=
  ["README.md".toList, "apps/web/index.ts".toList, "apps/web/ui/list.ts".toList]

theorem validate_alignment_webFiles :
    let r : Rule := ⟨"namespace".toList, .error, .always,
      .alignment ["apps/*".toList, "libs/shared".toList]⟩
    webFiles ≠ [] ∧
      (Resolver.ofPatterns ["apps/*".toList, "libs/shared".toList]).touched webFiles =
        {"web".toList} ∧
      r.validate [" web".toList] (some webFiles) = .ok [] ∧
      r.validate [" web".toList] (some (webFiles.reverse ++ webFiles)) = .ok [] ∧
      r.validate [] (some webFiles) ≠ .ok [] := by
  intro r
  have hf : webFiles ≠ [] := by decide
  have htouched : (Resolver.ofPatterns ["apps/*".toList, "libs/shared".toList]).touched webFiles =
      {"web".toList} := Resolver.namespacesOf_eq_singleton_iff.mp (by decide +kernel)
  obtain ⟨-, hdeclared, hothers, -⟩ :=
    validate_alignment (r := r) rfl rfl hf [" web".toList]
  obtain ⟨-, hundeclared, -⟩ := validate_alignment (r := r) rfl rfl hf []
  have hcontent := hdeclared.mpr (Or.inr ⟨by decide +kernel, htouched⟩)
  refine ⟨hf, htouched, hcontent, (hothers _ fun file => ?_).mpr hcontent, fun h => ?_⟩
  · rw [List.mem_append, List.mem_reverse, or_self]
  · rcases hundeclared.mp h with ⟨-, hnone⟩ | ⟨hne, -⟩
    · exact Set.singleton_ne_empty _ (htouched.symm.trans hnone)
    · exact hne rfl

end Alignment

end Rule

end CommitStandard
