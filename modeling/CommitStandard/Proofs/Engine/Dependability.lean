import Mathlib.Tactic
import CommitStandard.Proofs.Rule.Repairing

/-!
# When configured rules break down

An entry builds a rule only from a value that its kind admits (`Constraint.admits_of_ofValue?`).
Checks and repairs by such a rule always have an outcome if the rule is worded, and only then
(`Rule.isDependable_iff`). What they find begins with a capital letter and what is recorded of a
breakdown does not, so that an evaluation under worded rules records none, and a check of values
records one exactly if a rule that is not worded has something to report
(`ofEntries_dependable`).
-/
namespace CommitStandard

variable {c : Coercions}

/-- Whether rules of a kind can have a value. -/
def Kind.Admits : Kind → Value → Prop
  | .fullStop, value | .allowMultiple, value => ∃ s : Text, s ≠ [] ∧ value = .text s
  | .maxLength, value | .minLength, value | .maxLineLength, value => ∃ n : Nat, value = .int n
  | .letterCase, value =>
    ∃ cases : List LetterCase, cases ≠ [] ∧ value = Value.ofTexts (cases.map LetterCase.name)
  | .enum, value => ∃ texts, value = Value.ofTexts texts
  | .presence, value | .alignment, value => ∃ texts, texts ≠ [] ∧ value = Value.ofTexts texts
  | .empty, value | .trim, value | .exclamationMark, value | .leadingBlank, value => value = .null

namespace Constraint

theorem ne_nil_of_textOr? {default s : Text} {value : Value} (hd : default ≠ [])
    (h : textOr? default value = some s) : s ≠ [] := by
  unfold textOr? at h
  split at h
  · exact Option.some.inj h ▸ hd
  · split at h
    · cases h
    · rename_i hne
      obtain rfl := Option.some.inj h
      simpa using hne
  · cases h

theorem ne_nil_of_someTexts? {value : Value} {texts : List Text}
    (h : someTexts? value = some texts) : texts ≠ [] := by
  obtain ⟨ts, -, h⟩ := Option.bind_eq_some_iff.mp h
  split at h
  · cases h
  · rename_i hne
    obtain rfl := Option.some.inj h
    simpa using hne

theorem ne_nil_of_cases? {value : Value} {cs : List LetterCase} (h : cases? value = some cs) :
    cs ≠ [] := by
  obtain ⟨names, -, h⟩ := Option.bind_eq_some_iff.mp h
  split at h
  · cases h
  · rename_i hne
    rintro rfl
    cases names with
    | nil => exact hne rfl
    | cons name names =>
      rw [List.mapM_cons] at h
      obtain ⟨c, -, h⟩ := Option.bind_eq_some_iff.mp h
      obtain ⟨cs, -, h⟩ := Option.bind_eq_some_iff.mp h
      cases h

/-- A constraint is of the kind that was asked for, and its value is one that the kind admits. -/
theorem admits_of_ofValue? {kind : Kind} {value : Value} {c : Constraint}
    (h : ofValue? kind value = some c) : c.kind = kind ∧ kind.Admits c.value := by
  cases kind with
  | empty | trim | exclamationMark | leadingBlank =>
    obtain rfl := Option.some.inj h
    exact ⟨rfl, rfl⟩
  | fullStop | allowMultiple =>
    obtain ⟨s, hs, rfl⟩ := Option.map_eq_some_iff.mp h
    exact ⟨rfl, s, ne_nil_of_textOr? (by simp) hs, rfl⟩
  | maxLength | minLength | maxLineLength =>
    obtain ⟨n, hn, rfl⟩ := Option.map_eq_some_iff.mp h
    obtain ⟨k, rfl⟩ := Int.eq_ofNat_of_zero_le (nonneg_of_count? hn)
    exact ⟨rfl, k, rfl⟩
  | letterCase =>
    obtain ⟨cs, hcs, rfl⟩ := Option.map_eq_some_iff.mp h
    exact ⟨rfl, cs, ne_nil_of_cases? hcs, rfl⟩
  | enum =>
    obtain ⟨texts, -, rfl⟩ := Option.map_eq_some_iff.mp h
    exact ⟨rfl, texts, rfl⟩
  | presence | alignment =>
    obtain ⟨texts, htexts, rfl⟩ := Option.map_eq_some_iff.mp h
    exact ⟨rfl, texts, ne_nil_of_someTexts? htexts, rfl⟩

end Constraint

/-- A created rule has the constraint that its kind has with some value. -/
theorem exists_ofValue?_of_createRule? {id : Text} {entry : Entry} {r : Rule}
    (h : createRule? c id entry = some r) :
    ∃ value, Constraint.ofValue? r.kind value = some r.constraint := by
  obtain ⟨part, kind, setting, constraint, -, -, hconstraint, rfl⟩ := exists_of_createRule? h
  obtain ⟨rfl, -⟩ := Constraint.admits_of_ofValue? hconstraint
  exact ⟨setting.value, hconstraint⟩

/-- A created rule keeps the identifier, and its value is one that its kind admits. -/
theorem id_eq_and_admits_of_createRule? {id : Text} {entry : Entry} {r : Rule}
    (h : createRule? c id entry = some r) : r.id = id ∧ r.kind.Admits r.value := by
  obtain ⟨part, kind, setting, constraint, rfl, -, hconstraint, rfl⟩ := exists_of_createRule? h
  obtain ⟨rfl, hvalue⟩ := Constraint.admits_of_ofValue? hconstraint
  exact ⟨rfl, hvalue⟩

/-- Whether a text begins with a capital letter. -/
def Text.opensCapital (s : Text) : Bool := s.head?.any asciiUpper

section Findings

variable {r : Rule} {values : List Text} {files : Option ChangedFiles}

theorem Rule.opensCapital_of_describe {sentence : Text} (h : r.describe = .ok sentence) :
    Text.opensCapital sentence = true := by
  rw [describe] at h
  cases hp : r.constraint.predicate r.applicability with
  | error e =>
    rw [hp] at h
    cases h
  | ok predicate =>
    rw [hp] at h
    obtain rfl := Except.ok.inj h
    rfl

theorem Rule.opensCapital_of_report {indexes : List Nat} {found : List Finding}
    (h : r.report indexes = .ok found) : ∀ f ∈ found, Text.opensCapital f.2 = true := by
  intro f hf
  by_cases hw : r.IsWorded
  · obtain ⟨sentence, hs⟩ := hw.exists_describe
    rw [report_of_describe hs, Except.ok.injEq] at h
    subst h
    obtain ⟨i, -, rfl⟩ := List.mem_map.mp hf
    exact opensCapital_of_describe hs
  · by_cases hnone : indexes = []
    · rw [hnone] at h
      obtain rfl := Except.ok.inj h
      cases hf
    · rw [report_of_not_isWorded hw hnone] at h
      cases h

theorem Resolver.opensCapital_of_mem_errors {resolver : Resolver} {declared e : Text}
    {changed : ChangedFiles} (h : e ∈ (resolver.checkAlignment declared changed).errors) :
    Text.opensCapital e = true := by
  unfold checkAlignment at h
  split at h
  · split at h
    · cases h
    · rw [List.mem_singleton.mp h]
      rfl
  · dsimp only at h
    split at h
    · rw [List.mem_singleton.mp h]
      rfl
    · split at h
      · rw [List.mem_singleton.mp h]
        rfl
      · cases h
  · unfold checkSingle at h
    dsimp only at h
    split at h
    · rw [List.mem_singleton.mp h]
      rfl
    · cases h

theorem Rule.opensCapital_of_validate_alignment {directories : List Text}
    (hc : r.constraint = .alignment directories) {found : List Finding}
    (h : r.validate values files = .ok found) : ∀ f ∈ found, Text.opensCapital f.2 = true := by
  intro f hf
  rw [validate, hc] at h
  have hnone (hfound : Except.ok (ε := Fault) [] = .ok found) : Text.opensCapital f.2 = true := by
    obtain rfl := Except.ok.inj hfound
    cases hf
  cases ha : r.applicability with
  | never =>
    rw [ha] at h
    exact hnone h
  | always =>
    rw [ha] at h
    rcases files with _ | _ | ⟨path, paths⟩
    · exact hnone h
    · exact hnone h
    · dsimp only at h
      rw [alignmentError?_eq] at h
      obtain rfl := Except.ok.inj h
      obtain ⟨e, he, rfl⟩ := List.mem_map.mp hf
      exact Resolver.opensCapital_of_mem_errors (List.mem_of_head? (Option.mem_toList.mp he))

/-- What a built-in check finds begins with a capital letter. -/
theorem Rule.IsBuiltIn.opensCapital_of_validate (hb : r.IsBuiltIn) {found : List Finding}
    (h : r.validate values files = .ok found) : ∀ f ∈ found, Text.opensCapital f.2 = true := by
  intro f hf
  cases hc : r.constraint with
  | each test =>
    rw [validate_each hc] at h
    exact opensCapital_of_report h f hf
  | allowMultiple delimiter =>
    rw [validate, hc] at h
    cases ha : r.applicability with
    | always =>
      rw [ha] at h
      obtain rfl := Except.ok.inj h
      cases hf
    | never =>
      rw [ha] at h
      exact opensCapital_of_report h f hf
  | presence texts =>
    cases ha : r.applicability with
    | always =>
      rw [validate, hc, ha] at h
      exact opensCapital_of_report h f hf
    | never =>
      obtain ⟨sentence, hs⟩ := (isWorded_of_forall_ne (r := r) (by simp [hc])).exists_describe
      rw [validate_ban hc ha hs, Except.ok.injEq] at h
      subst h
      obtain ⟨v, -, rfl⟩ := List.mem_map.mp hf
      rfl
  | alignment directories => exact opensCapital_of_validate_alignment hc h f hf
  | custom check => exact absurd hc (hb check)

/-- The built-in repair of a worded rule has an outcome, and what it leaves is what a check
finds. -/
theorem Rule.IsBuiltIn.exists_fix (hb : r.IsBuiltIn) (hw : r.IsWorded) (values : List Text)
    (files : Option ChangedFiles) : ∃ left repaired, r.fix values files = .ok (left, repaired) ∧
      ∀ f ∈ left, Text.opensCapital f.2 = true := by
  cases hc : r.constraint with
  | each test =>
    obtain ⟨left, hleft, hfix⟩ := hw.exists_fix_each hc values files
    exact ⟨left, _, hfix, opensCapital_of_report hleft⟩
  | allowMultiple delimiter =>
    obtain ⟨repaired, hfix, -⟩ := repairs_allowMultiple hc files values
    exact ⟨[], repaired, hfix, by simp⟩
  | presence texts =>
    cases ha : r.applicability with
    | always => exact ⟨[], values ++ missing texts values, by rw [fix, hc, ha], by simp⟩
    | never =>
      exact ⟨[], values.filter fun s => !texts.contains (Text.strip s), by rw [fix, hc, ha],
        by simp⟩
  | alignment directories =>
    obtain ⟨left, hfix, hrepairs⟩ := repairs_alignment hc files values
    exact ⟨left, values, hfix, hb.opensCapital_of_validate hrepairs.validate_repaired⟩
  | custom check => exact absurd hc (hb check)

/-- A violation counts as an error or as a warning. -/
theorem Rule.errors_append_warnings_outcome (r : Rule) (output : List Text)
    (found : List Finding) :
    (r.outcome output found).errors ++ (r.outcome output found).warnings = found := by
  unfold outcome
  split
  · rfl
  · exact List.append_nil found

/-- A built-in check has an outcome, with repairs and without, if the rule is worded or has
nothing to report. -/
theorem Rule.IsBuiltIn.exists_check (hb : r.IsBuiltIn)
    (h : r.IsWorded ∨ r.validate values files = .ok []) (attemptFix : Bool) :
    ∃ o, r.check values attemptFix files = .ok o ∧
      ∀ f ∈ o.errors ++ o.warnings, Text.opensCapital f.2 = true := by
  unfold check
  split
  · exact ⟨_, rfl, by simp⟩
  rcases h with hw | hnone
  · obtain ⟨found, hfound⟩ := hb.exists_validate hw values files
    obtain ⟨left, repaired, hfix, hleft⟩ := hb.exists_fix hw values files
    rw [hfound]
    by_cases hclean : found.isEmpty = true
    · exact ⟨⟨values, [], []⟩, by simp [hclean, bind, Except.bind, pure, Except.pure], by simp⟩
    · cases attemptFix with
      | true =>
        refine ⟨r.outcome repaired left, ?_, ?_⟩
        · simp [hclean, hfix, bind, Except.bind, pure, Except.pure]
        · rwa [errors_append_warnings_outcome]
      | false =>
        refine ⟨r.outcome values found, ?_, ?_⟩
        · simp [hclean, bind, Except.bind, pure, Except.pure]
        · rw [errors_append_warnings_outcome]
          exact hb.opensCapital_of_validate hfound
  · rw [hnone]
    exact ⟨⟨values, [], []⟩, rfl, by simp⟩

theorem Rule.IsBuiltIn.exists_check_of_isWorded (hb : r.IsBuiltIn) (hw : r.IsWorded)
    (values : List Text) (attemptFix : Bool) (files : Option ChangedFiles) :
    ∃ o, r.check values attemptFix files = .ok o := by
  obtain ⟨o, ho, -⟩ := hb.exists_check (Or.inl hw) attemptFix
  exact ⟨o, ho⟩

end Findings

/-- Whether a rule can be described, and its check and its repair always have an outcome. -/
structure Rule.IsDependable (r : Rule) : Prop where
  exists_describe : ∃ s, r.describe = .ok s
  exists_validate : ∀ values files, ∃ found, r.validate values files = .ok found
  exists_fix : ∀ values files, ∃ left repaired, r.fix values files = .ok (left, repaired)
  exists_check : ∀ values attemptFix files, ∃ o, r.check values attemptFix files = .ok o

/-- A built-in rule is dependable exactly if it is worded. -/
theorem Rule.IsBuiltIn.isDependable_iff {r : Rule} (hb : r.IsBuiltIn) :
    r.IsDependable ↔ r.IsWorded := by
  refine ⟨fun h => isWorded_iff.mpr h.exists_describe, fun hw => ?_⟩
  refine ⟨hw.exists_describe, hb.exists_validate hw, fun values files => ?_,
    hb.exists_check_of_isWorded hw⟩
  obtain ⟨left, repaired, hfix, -⟩ := hb.exists_fix hw values files
  exact ⟨left, repaired, hfix⟩

/-- A built-in check has an answer exactly if its rule is worded or has nothing to report. -/
theorem Rule.IsBuiltIn.exists_validate_iff {r : Rule} (hb : r.IsBuiltIn) (values : List Text)
    (files : Option ChangedFiles) : (∃ found, r.validate values files = .ok found) ↔
      r.IsWorded ∨ r.validate values files = .ok [] := by
  constructor
  · rintro ⟨found, hfound⟩
    by_cases hw : r.IsWorded
    · exact Or.inl hw
    · rcases validate_of_not_isWorded hw values files with hnone | hfault
      · exact Or.inr hnone
      · cases hfound.symm.trans hfault
  · rintro (hw | hnone)
    · exact hb.exists_validate hw values files
    · exact ⟨[], hnone⟩

def Evaluation.recorded (e : Evaluation) : List Finding := e.errors.recorded ++ e.warnings.recorded

/-- Whether a finding is recorded with the label of a part and begins with a capital letter. -/
def IsLabelled (f : Finding) : Prop :=
  ∃ (part : Part) (message : Text), f.2 = Violations.label part.name f.1 message ∧
    Text.opensCapital message = true

section Labels

theorem Part.colon_notMem_name (p : Part) : ':' ∉ p.name := by cases p <;> decide

/-- The identifier of a rule begins with a small letter. -/
theorem Rule.IsCreated.opensCapital_id {id : Text} {r : Rule} (h : r.IsCreated id) (s : Text) :
    Text.opensCapital (r.id ++ s) = false := by
  obtain ⟨part, hpart, -⟩ := h.part
  rw [Rule.id, hpart]
  cases part <;> rfl

/-- What begins with a capital letter is not the report of a breakdown. -/
theorem IsLabelled.ne_breakdown {f : Finding} (hf : IsLabelled f) {id : Text} {r : Rule}
    (h : r.IsCreated id) (fault : Fault) : f ≠ r.breakdown fault := by
  rintro rfl
  obtain ⟨part, message, hlabel, hcapital⟩ := hf
  obtain ⟨p, hp, -⟩ := h.part
  simp only [Rule.breakdown, Violations.label, List.cons.injEq, true_and, hp] at hlabel
  obtain ⟨-, hrest⟩ :=
    Text.eq_of_append_cons p.colon_notMem_name part.colon_notMem_name hlabel
  have hmessage := List.append_cancel_left hrest
  rw [← hmessage, List.append_assoc, h.opensCapital_id] at hcapital
  cases hcapital

end Labels

section Runs

variable {entries : List (Text × Entry)} {values : List Text} {attemptFix : Bool}
  {files : Option ChangedFiles}

/-- One rule that has an answer adds labelled findings. -/
theorem isLabelled_step {id : Text} {r : Rule} (h : r.IsCreated id) {e : Evaluation}
    (hr : r.IsWorded ∨ r.validate e.output files = .ok [])
    (he : ∀ f ∈ e.recorded, IsLabelled f) :
    ∀ f ∈ (Engine.step attemptFix files e r).recorded, IsLabelled f := by
  obtain ⟨o, ho, hcapital⟩ := h.isBuiltIn.exists_check hr attemptFix
  obtain ⟨part, hpart, -⟩ := h.part
  have hadded : ∀ g ∈ o.errors ++ o.warnings,
      IsLabelled (g.1, Violations.label r.part g.1 g.2) := by
    intro g hg
    exact ⟨part, g.2, by rw [hpart], hcapital g hg⟩
  intro f hf
  rw [Engine.step, ho, Engine.record, Evaluation.recorded, Violations.recorded_record,
    Violations.recorded_record] at hf
  simp only [List.mem_append, List.mem_map] at hf hadded he
  rcases hf with (hf | ⟨g, hg, rfl⟩) | hf | ⟨g, hg, rfl⟩
  · exact he f (List.mem_append_left _ hf)
  · exact hadded g (Or.inl hg)
  · exact he f (List.mem_append_right _ hf)
  · exact hadded g (Or.inr hg)

/-- An evaluation under worded rules records labelled findings. -/
theorem isLabelled_evaluate (hw : ∀ r ∈ configuredRules c entries, r.IsWorded)
    (values : List Text) (attemptFix : Bool) (files : Option ChangedFiles) :
    ∀ f ∈ ((Engine.ofEntries c entries).evaluate values attemptFix files).recorded,
      IsLabelled f := by
  refine List.foldlRecOn (motive := fun e => ∀ f ∈ Evaluation.recorded e, IsLabelled f)
    (configuredRules c entries) _ (by simp [Evaluation.recorded, Violations.none]) ?_
  intro e he r hr
  obtain ⟨id, hid⟩ := exists_isCreated hr
  exact isLabelled_step hid (Or.inl (hw r hr)) he

/-- So does an evaluation without repairs where the other rules have nothing to report. -/
theorem isLabelled_evaluate_false
    (h : ∀ r ∈ configuredRules c entries, r.IsWorded ∨ r.validate values files = .ok []) :
    ∀ f ∈ ((Engine.ofEntries c entries).evaluate values false files).recorded,
      IsLabelled f := by
  -- Without repairs every rule sees the values that were given.
  have hrun := List.foldlRecOn
    (motive := fun e : Evaluation => e.output = values ∧ ∀ f ∈ e.recorded, IsLabelled f)
    (configuredRules c entries) (Engine.step false files) (b := ⟨values, .none, .none⟩)
    ⟨rfl, by simp [Evaluation.recorded, Violations.none]⟩ ?_
  · exact hrun.2
  · rintro e ⟨rfl, he⟩ r hr
    obtain ⟨id, hid⟩ := exists_isCreated hr
    exact ⟨by rw [step_false], isLabelled_step hid (h r hr) he⟩

/-- A check that breaks down is recorded. -/
theorem breakdown_mem_evaluate_false {r : Rule} (hr : r ∈ configuredRules c entries) {fault : Fault}
    (hfault : r.validate values files = .error fault) :
    r.breakdown fault ∈ ((Engine.ofEntries c entries).evaluate values false files).recorded := by
  rw [Engine.evaluate_eq_recordedAs]
  refine List.mem_append_left _ (List.mem_flatMap.mpr ⟨r, hr, ?_⟩)
  rw [Rule.recordedAs, if_neg (severity_ne_disabled hr), hfault]
  exact List.mem_singleton.mpr rfl

end Runs

/-- Every rule that an entry builds keeps its identifier, is enabled and has a value that its kind
admits. It is dependable exactly if it is worded, and its check of values has an answer exactly if
it is worded or has nothing to report. No evaluation under worded rules records a breakdown, and
one without repairs records none exactly if all rules that have something to report are worded. -/
theorem ofEntries_dependable (c : Coercions) (entries : List (Text × Entry)) :
    (∀ id entry r, createRule? c id entry = some r →
      r.id = id ∧ r.severity ≠ .disabled ∧ r.kind.Admits r.value ∧
        (r.IsDependable ↔ r.IsWorded) ∧
        ∀ values files, (∃ found, r.validate values files = .ok found) ↔
          r.IsWorded ∨ r.validate values files = .ok []) ∧
      ((∀ r ∈ configuredRules c entries, r.IsWorded) → ∀ values attemptFix files,
        ∀ f ∈ ((Engine.ofEntries c entries).evaluate values attemptFix files).recorded,
          ∀ r ∈ configuredRules c entries, ∀ fault, f ≠ r.breakdown fault) ∧
      ∀ values files,
        (∀ f ∈ ((Engine.ofEntries c entries).evaluate values false files).recorded,
          ∀ r ∈ configuredRules c entries, ∀ fault, f ≠ r.breakdown fault) ↔
        ∀ r ∈ configuredRules c entries, r.IsWorded ∨ r.validate values files = .ok [] := by
  refine ⟨fun id entry r h => ?_, fun hw values attemptFix files f hf r hr fault => ?_,
    fun values files => ⟨fun h r hr => ?_, fun h f hf r hr fault => ?_⟩⟩
  · obtain ⟨hid, hvalue⟩ := id_eq_and_admits_of_createRule? h
    have hcreated := isCreated_of_createRule? h
    exact ⟨hid, hcreated.severity, hvalue, hcreated.isBuiltIn.isDependable_iff,
      hcreated.isBuiltIn.exists_validate_iff⟩
  · obtain ⟨id, hid⟩ := exists_isCreated hr
    exact (isLabelled_evaluate hw values attemptFix files f hf).ne_breakdown hid fault
  · obtain ⟨id, hid⟩ := exists_isCreated hr
    rw [← hid.isBuiltIn.exists_validate_iff]
    cases hv : r.validate values files with
    | ok found => exact ⟨found, rfl⟩
    | error fault => exact absurd rfl (h _ (breakdown_mem_evaluate_false hr hv) r hr fault)
  · obtain ⟨id, hid⟩ := exists_isCreated hr
    exact (isLabelled_evaluate_false h f hf).ne_breakdown hid fault

/-- A line that is too long is recorded as such. -/
theorem ofEntries_dependable_narrowBody :
    ∃ r, createRule? .lax "body-max-line-length".toList narrowBody = some r ∧
      r.IsDependable ∧ r ∈ configuredRules .lax [("body-max-line-length".toList, narrowBody)] ∧
        ∃ f ∈ ((Engine.ofEntries .lax [("body-max-line-length".toList, narrowBody)]).evaluate
            ["one two three".toList] false none).recorded,
          ∀ fault, f ≠ r.breakdown fault := by
  let r := Rule.strict "body".toList .always (.maxLineLength 8)
  have hcreated : createRule? .lax "body-max-line-length".toList narrowBody = some r := by rfl
  have hrules := configuredRules_singleton hcreated
  have hworded : r.IsWorded := isWorded_strict.mpr (by decide)
  obtain ⟨hbuilds, hnone, -⟩ :=
    ofEntries_dependable .lax [("body-max-line-length".toList, narrowBody)]
  obtain ⟨-, -, -, hdependable, -⟩ := hbuilds _ _ r hcreated
  have hmem : r ∈ configuredRules .lax [("body-max-line-length".toList, narrowBody)] :=
    hrules ▸ List.mem_singleton.mpr rfl
  have hrecorded : (0, "[body:0] The body must always wrap lines at 8 characters".toList) ∈
      ((Engine.ofEntries .lax [("body-max-line-length".toList, narrowBody)]).evaluate
        ["one two three".toList] false none).recorded := by
    exact List.mem_singleton.mpr rfl
  exact ⟨r, hcreated, hdependable.mpr hworded, hmem, _, hrecorded,
    hnone (hrules ▸ List.forall_mem_singleton.mpr hworded) _ _ _ _ hrecorded r hmem⟩

/-- An entry with a limit that cannot be written, under which a check of a short subject breaks
down. -/
theorem ofEntries_unwritable :
    ∃ r, createRule? .lax "subject-min-length".toList (minLengthEntry .error Text.unwritable) =
        some r ∧ r.describe = .error (.digits {}) ∧
      r.breakdown (.digits {}) ∈ ((Engine.ofEntries .lax
        [("subject-min-length".toList, minLengthEntry .error Text.unwritable)]).evaluate
          ["Add parser".toList] false none).recorded := by
  have hcreated := createRule?_minLengthEntry .lax (by decide : Severity.error ≠ .disabled)
    Text.unwritable
  have hshort : "Add parser".toList.length < Text.unwritable :=
    (by decide : (Test.minLength 10).IsWorded) 10 rfl
  refine ⟨_, hcreated, Rule.describe_of_not_isWorded (Rule.not_isWorded_minLength le_rfl rfl),
    breakdown_mem_evaluate_false ?_ (Rule.validate_minLength_of_always le_rfl rfl rfl hshort none)⟩
  exact configuredRules_singleton hcreated ▸ List.mem_singleton.mpr rfl

end CommitStandard
