import Mathlib.Tactic
import CommitStandard.Proofs.Message.Unrepaired

/-!
# The verdict on a message

Checking a message reports each violation of each rule once, under its severity and
with the label of its part and index, and each breakdown as an error
(`flatMap_checkedReports_perm`). Hence a message is valid exactly if it meets every
rule whose violations are errors and no check breaks down (`process_verdict`).
-/
namespace CommitStandard

variable {c : Coercions}

/-- The messages of a report that have a severity. -/
def Report.messagesOf (r : Report) : Severity → List Text
  | .disabled => []
  | .warning => r.warnings
  | .error => r.errors

/-- The violations of an evaluation that have a severity. -/
def Evaluation.violationsOf (e : Evaluation) : Severity → Violations
  | .disabled => .none
  | .warning => e.warnings
  | .error => e.errors

/-- A report that is left out has no messages. -/
theorem Report.flatMap_ofMessages? (part : Part) (filter : Option Text)
    (found : Severity → List Text) (h : found .disabled = []) (σ : Severity) :
    (Report.ofMessages? part filter (found .error) (found .warning)).toList.flatMap
      (·.messagesOf σ) = found σ := by
  unfold ofMessages?
  split
  · rename_i hempty
    obtain ⟨herrors, hwarnings⟩ : found .error = [] ∧ found .warning = [] := by
      simpa using hempty
    cases σ with
    | disabled => exact h.symm
    | warning => exact hwarnings.symm
    | error => exact herrors.symm
  · cases σ with
    | disabled => exact h.symm
    | warning => exact List.append_nil _
    | error => exact List.append_nil _

section Parts

variable {e : Engine} (files : Option ChangedFiles) {σ : Severity} (hσ : σ ≠ .disabled)

def Engine.rulesFor (e : Engine) (part : Part) : List Rule := (e.forPart part).rules.map Prod.snd

include hσ

theorem recorded_violationsOf (part : Part) (values : List Text) :
    (((e.forPart part).evaluate values false files).violationsOf σ).recorded =
      labelledOf σ (e.rulesFor part) values files := by
  rw [Engine.evaluate_eq_recordedAs]
  cases σ with
  | disabled => exact absurd rfl hσ
  | warning => rfl
  | error => rfl

theorem flatMap_checkReports_perm (part : Part) (values : List Text) :
    ((e.checkReports files part values).flatMap (·.messagesOf σ)).Perm
      ((labelledOf σ (e.rulesFor part) values files).map Prod.snd) := by
  obtain ⟨found, hfound⟩ : ∃ found, (e.forPart part).evaluate values false files = found :=
    ⟨_, rfl⟩
  have hreport : (Report.ofEvaluation? part found).toList.flatMap (·.messagesOf σ) =
      (found.violationsOf σ).messages :=
    Report.flatMap_ofMessages? part none (fun σ => (found.violationsOf σ).messages) rfl σ
  rw [Engine.checkReports, ← recorded_violationsOf files hσ, hfound, hreport]
  exact Violations.messages_perm _

namespace Message

/-- The reports about single footers leave no violation out. -/
theorem flatMap_textReports_perm (fs : List Footer) :
    ((textReports e files fs).flatMap (·.messagesOf σ)).Perm
      ((labelledOf σ (e.rulesFor .footer) (fs.map Footer.text) files).map Prod.snd) := by
  obtain ⟨found, hfound⟩ : ∃ found,
      (e.forPart .footer).evaluate (fs.map Footer.text) false files = found := ⟨_, rfl⟩
  rw [textReports, ← recorded_violationsOf files hσ, hfound, List.filterMap_eq_flatMap_toList,
    List.flatMap_assoc]
  have hreport : ∀ i, (footerReport? fs found i).toList.flatMap (·.messagesOf σ) =
      (found.violationsOf σ).messagesAt i := fun i =>
    Report.flatMap_ofMessages? .footer _ (fun σ => (found.violationsOf σ).messagesAt i) rfl σ
  rw [List.flatMap_congr fun i _ => hreport i]
  refine Violations.flatMap_messagesAt_perm _ (Violations.nodup_sortIndexes _) fun f hf => ?_
  rw [Violations.mem_sortIndexes, List.mem_append]
  cases σ with
  | disabled => exact absurd rfl hσ
  | warning => exact Or.inr (Violations.mem_indexes hf)
  | error => exact Or.inl (Violations.mem_indexes hf)

end Message

end Parts

namespace Message

/-- What a rule records in a message as violations of a severity. -/
def recordedAs (m : Message) (files : Option ChangedFiles) (σ : Severity) (r : Rule) :
    List Finding :=
  match Part.ofName? r.part with
  | some part => (r.recordedAs σ (m.values part) files).recorded
  | none => []

/-- The violations of a rule in a message, each with the index and the labelled message, or that
its check broke down. -/
def violations (m : Message) (files : Option ChangedFiles) (r : Rule) : List Finding :=
  match Part.ofName? r.part with
  | some part => r.labelled (m.values part) files
  | none => []

section Labels

variable (m : Message) (files : Option ChangedFiles) {r : Rule} {part : Part}
  (h : r.part = part.name)

include h

theorem recordedAs_eq (σ : Severity) :
    m.recordedAs files σ r = (r.recordedAs σ (m.values part) files).recorded := by
  rw [recordedAs, h, Part.ofName?_name]

theorem violations_eq : m.violations files r = r.labelled (m.values part) files := by
  rw [violations, h, Part.ofName?_name]

end Labels

def checkedParts : List Part :=
  [.nameSpace, .type, .scope, .subject, .header, .body, .footer, .trailer, .footers]

section Configured

variable {entries : List (Text × Entry)}

theorem rulesFor_ofEntries (c : Coercions) (entries : List (Text × Entry)) (part : Part) :
    (Engine.ofEntries c entries).rulesFor part =
      (configuredRules c entries).filter fun r => r.part = part.name := by
  rw [Engine.rulesFor, forPart_ofEntries, configuredRules, List.filter_map]
  rfl

theorem mem_rulesFor_iff {part : Part} {r : Rule} :
    r ∈ (Engine.ofEntries c entries).rulesFor part ↔
      r ∈ configuredRules c entries ∧ r.part = part.name := by
  rw [rulesFor_ofEntries, List.mem_filter, decide_eq_true_iff]

/-- Part by part, the rules record what all rules record. -/
theorem flatMap_checkedParts_perm (c : Coercions) (entries : List (Text × Entry)) (m : Message)
    (files : Option ChangedFiles) (σ : Severity) :
    (checkedParts.flatMap fun part =>
        labelledOf σ ((Engine.ofEntries c entries).rulesFor part) (m.values part) files).Perm
      ((configuredRules c entries).flatMap (m.recordedAs files σ)) := by
  have hpart : ∀ part, labelledOf σ ((Engine.ofEntries c entries).rulesFor part) (m.values part)
      files = ((configuredRules c entries).filter fun r => r.part = part.name).flatMap
        (m.recordedAs files σ) := by
    intro part
    rw [labelledOf, rulesFor_ofEntries]
    refine List.flatMap_congr fun r hr => ?_
    exact (m.recordedAs_eq files (of_decide_eq_true (List.mem_filter.mp hr).2) σ).symm
  have hparts : ∀ r ∈ configuredRules c entries, r.part ∈ checkedParts.map Part.name := by
    intro r hr
    obtain ⟨id, hid⟩ := exists_isCreated hr
    obtain ⟨part, hname, -⟩ := hid.part
    rw [hname]
    exact List.mem_map_of_mem (by cases part <;> decide)
  have hgroups := flatMap_filter_perm Rule.part (checkedParts.map Part.name) (by decide) hparts
  rw [List.flatMap_map] at hgroups
  rw [List.flatMap_congr fun part _ => hpart part, ← List.flatMap_assoc]
  exact hgroups.flatMap_right _

/-- The reports on a message that is written back as it is have what all rules record. -/
theorem flatMap_checkedReports_perm {m : Message}
    (hm : m.writtenBack (Engine.ofEntries c entries) = m) (files : Option ChangedFiles)
    {σ : Severity} (hσ : σ ≠ .disabled) :
    ((m.checkedReports (Engine.ofEntries c entries) files).flatMap (·.messagesOf σ)).Perm
      ((configuredRules c entries).flatMap fun r => (m.recordedAs files σ r).map Prod.snd) := by
  have hpart := @flatMap_checkReports_perm (.ofEntries c entries) files σ hσ
  have htext := @flatMap_textReports_perm (.ofEntries c entries) files σ hσ m.footers
  have hall := (flatMap_checkedParts_perm c entries m files σ).map Prod.snd
  rw [List.map_flatMap, List.map_flatMap] at hall
  refine List.Perm.trans ?_ hall
  simp only [checkedReports, hm, checkedParts, List.flatMap_cons, List.flatMap_nil,
    List.flatMap_append, List.append_nil, List.append_assoc]
  exact ((hpart _ _).append <| (hpart _ _).append <| (hpart _ _).append <| (hpart _ _).append <|
    (hpart _ _).append <| (hpart _ _).append <| htext.append <| (hpart _ _).append (hpart _ _))

/-- What configured rules record as errors and as warnings is all that they record. -/
theorem flatMap_severities_perm {β : Type*} (entries : List (Text × Entry)) (m : Message)
    (files : Option ChangedFiles) (g : Finding → β) :
    (((configuredRules c entries).flatMap fun r => (m.recordedAs files .error r).map g) ++
      (configuredRules c entries).flatMap fun r => (m.recordedAs files .warning r).map g).Perm
      ((configuredRules c entries).flatMap fun r => (m.violations files r).map g) := by
  refine (List.flatMap_append_perm _ _ _).trans (List.Perm.of_eq ?_)
  refine List.flatMap_congr fun r hr => ?_
  obtain ⟨id, hid⟩ := exists_isCreated hr
  obtain ⟨part, hname, -⟩ := hid.part
  rw [← List.map_append, m.recordedAs_eq files hname, m.recordedAs_eq files hname,
    Rule.recordedAs_error_append_warning hid.severity, m.violations_eq files hname]

/-- The report of a check of a part has the name of the part. -/
theorem type_of_mem_checkReports {e : Engine} {files : Option ChangedFiles} {part : Part}
    {values : List Text} {rep : Report} (h : rep ∈ e.checkReports files part values) :
    rep.type = part.name := by
  rw [Engine.checkReports, Option.mem_toList, Report.ofEvaluation?, Report.ofMessages?] at h
  split at h
  · cases h
  · rw [← Option.some.inj h]

/-- The labelled messages of the rules of a part about the value at an index. -/
def messagesAt (c : Coercions) (entries : List (Text × Entry)) (m : Message)
    (files : Option ChangedFiles) (part : Part) (index : Nat) : List Text :=
  ((((configuredRules c entries).filter fun r => r.part = part.name).flatMap
    (m.violations files)).filter fun f => f.1 = index).map Prod.snd

/-- A report on a single footer has its token and the violations at its index. -/
theorem perm_of_mem_textReports {m : Message} {files : Option ChangedFiles} {rep : Report}
    (h : rep ∈ textReports (Engine.ofEntries c entries) files m.footers) :
    ∃ i, rep.filter = m.footers[i]?.map Footer.token ∧
      (rep.errors ++ rep.warnings).Perm (messagesAt c entries m files .footer i) := by
  obtain ⟨i, -, hi⟩ := List.mem_filterMap.mp h
  rw [footerReport?, Report.ofMessages?] at hi
  split at hi
  · cases hi
  · obtain rfl := Option.some.inj hi
    refine ⟨i, rfl, ?_⟩
    obtain ⟨texts, htexts⟩ : ∃ texts, m.footers.map Footer.text = texts := ⟨_, rfl⟩
    rw [htexts]
    have herrors : (((Engine.ofEntries c entries).forPart .footer).evaluate texts false
        files).errors.recorded = _ :=
      recorded_violationsOf files (by decide : Severity.error ≠ .disabled) .footer texts
    have hwarnings : (((Engine.ofEntries c entries).forPart .footer).evaluate texts false
        files).warnings.recorded = _ :=
      recorded_violationsOf files (by decide : Severity.warning ≠ .disabled) .footer texts
    rw [Violations.messagesAt_eq, Violations.messagesAt_eq, herrors, hwarnings,
      ← List.map_append, ← List.filter_append, messagesAt, ← rulesFor_ofEntries]
    refine List.Perm.map _ (List.Perm.filter _ ?_)
    refine (List.flatMap_append_perm _ _ _).trans (List.Perm.of_eq ?_)
    refine List.flatMap_congr fun r hr => ?_
    obtain ⟨hr, hname⟩ := mem_rulesFor_iff.mp hr
    rw [Rule.recordedAs_error_append_warning (severity_ne_disabled hr),
      m.violations_eq files hname]
    exact congrArg (r.labelled · files) htexts.symm

/-- The reports of all other parts have the names of these. -/
theorem mem_textReports_of_type {e : Engine} {m : Message} {files : Option ChangedFiles}
    {rep : Report} (h : rep ∈ m.checkedReports e files) (htype : rep.type = Part.footer.name) :
    rep ∈ textReports e files m.footers := by
  have hother : ∀ part values, part ≠ .footer → rep ∉ e.checkReports files part values :=
    fun part values hpart hrep =>
      hpart (Part.name_injective ((type_of_mem_checkReports hrep).symm.trans htype))
  simp only [checkedReports, List.flatMap_cons, List.flatMap_nil, List.append_nil,
    List.mem_append] at h
  rcases h with ((((((h | h | h | h) | h) | h) | htexts) | h) | h)
  · exact absurd h (hother _ _ (by decide))
  · exact absurd h (hother _ _ (by decide))
  · exact absurd h (hother _ _ (by decide))
  · exact absurd h (hother _ _ (by decide))
  · exact absurd h (hother _ _ (by decide))
  · exact absurd h (hother _ _ (by decide))
  · exact htexts
  · exact absurd h (hother _ _ (by decide))
  · exact absurd h (hother _ _ (by decide))

/-- No report has an error exactly if all checks have an answer, and all rules whose violations are
errors are met. -/
theorem all_checkedReports_iff {m : Message}
    (hm : m.writtenBack (Engine.ofEntries c entries) = m) (files : Option ChangedFiles) :
    (m.checkedReports (.ofEntries c entries) files).all (·.errors.isEmpty) = true ↔
      ∀ r ∈ configuredRules c entries, ∃ part : Part, r.part = part.name ∧
        ∃ found, r.validate (m.values part) files = .ok found ∧
          (r.severity = .error → found = []) := by
  have herrors := flatMap_checkedReports_perm hm files (by decide : Severity.error ≠ .disabled)
  have hnone : (m.checkedReports (.ofEntries c entries) files).all (·.errors.isEmpty) = true ↔
      (m.checkedReports (.ofEntries c entries) files).flatMap (·.messagesOf .error) = [] := by
    simp [List.flatMap_eq_nil_iff, Report.messagesOf]
  rw [hnone, ← List.perm_nil, herrors.congr_left, List.perm_nil, List.flatMap_eq_nil_iff]
  refine forall₂_congr fun r hr => ?_
  obtain ⟨id, hid⟩ := exists_isCreated hr
  obtain ⟨part, hname, -⟩ := hid.part
  rw [List.map_eq_nil_iff, m.recordedAs_eq files hname,
    Rule.recordedAs_error_eq_nil_iff hid.severity]
  constructor
  · exact fun hmet => ⟨part, hname, hmet⟩
  · rintro ⟨other, hother, hmet⟩
    rwa [Part.name_injective (hname.symm.trans hother)]

/-- The reports have what all rules find, whatever their severity. -/
theorem flatMap_errors_warnings_perm {m : Message}
    (hm : m.writtenBack (Engine.ofEntries c entries) = m) (files : Option ChangedFiles) :
    ((m.checkedReports (.ofEntries c entries) files).flatMap
        fun rep => rep.errors ++ rep.warnings).Perm
      ((configuredRules c entries).flatMap fun r => (m.violations files r).map Prod.snd) := by
  have herrors := flatMap_checkedReports_perm hm files
    (by decide : Severity.error ≠ .disabled)
  have hwarnings := flatMap_checkedReports_perm hm files
    (by decide : Severity.warning ≠ .disabled)
  obtain ⟨reports, hreports⟩ : ∃ reports,
      m.checkedReports (Engine.ofEntries c entries) files = reports := ⟨_, rfl⟩
  rw [hreports] at herrors hwarnings ⊢
  refine (List.flatMap_append_perm reports Report.errors Report.warnings).symm.trans ?_
  exact (herrors.append hwarnings).trans (flatMap_severities_perm entries m files Prod.snd)

/-- A message that was read, with its tokens in their normal spelling, is written back as it is. -/
theorem writtenBack_of_parse {options : HeaderOptions} {s : Text} {m : Message}
    (hm : parse options s = .ok m) (ht : ∀ f ∈ m.footers, Footer.normalizeToken f.token = f.token)
    (e : Engine) : m.writtenBack e = m := by
  refine writtenBack_eq_iff.mpr fun part _ => ?_
  by_cases hp : part = .trailer
  · exact hp ▸ (isSteady_trailer_iff hm).mpr ht
  · exact isSteady_of_parse hm hp

/-- Checking a message that was read, with its tokens in their normal spelling, reports what
every rule finds in its part, or that its check broke down. The message is valid exactly if no
check breaks down and it meets all rules whose violations are errors. A check breaks down only
where it has something to report and the limit of its rule cannot be written. -/
theorem process_verdict (c : Coercions) {options : HeaderOptions} {s : Text} {m : Message}
    (hm : parse options s = .ok m)
    (ht : ∀ f ∈ m.footers, Footer.normalizeToken f.token = f.token)
    (entries : List (Text × Entry)) (files : Option ChangedFiles) :
    ∃ p, m.process (.ofEntries c entries) false files = .ok p ∧
      (p.valid = true ↔ ∀ r ∈ configuredRules c entries, ∃ part : Part, r.part = part.name ∧
        ∃ found, r.validate (m.values part) files = .ok found ∧
          (r.severity = .error → found = [])) ∧
      (p.reports.flatMap fun rep => rep.errors ++ rep.warnings).Perm
        ((configuredRules c entries).flatMap fun r => (m.violations files r).map Prod.snd) ∧
      (∀ rep ∈ p.reports, rep.type = Part.footer.name →
        ∃ i, rep.filter = m.footers[i]?.map Footer.token ∧
          (rep.errors ++ rep.warnings).Perm (messagesAt c entries m files .footer i)) ∧
      ∀ r ∈ configuredRules c entries, ∀ part : Part, r.part = part.name →
        (∃ found, r.validate (m.values part) files = .ok found) ∨
          ¬r.IsWorded ∧ r.validate (m.values part) files = .error (.digits {}) := by
  have hsteady := writtenBack_of_parse hm ht (.ofEntries c entries)
  refine ⟨_, process_false (.ofEntries c entries) files m, ?_, ?_, ?_, ?_⟩
  · dsimp only
    exact all_checkedReports_iff hsteady files
  · exact flatMap_errors_warnings_perm hsteady files
  · exact fun rep hrep htype => perm_of_mem_textReports (mem_textReports_of_type hrep htype)
  · intro r hr part _
    obtain ⟨id, hid⟩ := exists_isCreated hr
    by_cases hw : r.IsWorded
    · exact Or.inl (hid.isBuiltIn.exists_validate hw _ files)
    · rcases Rule.validate_of_not_isWorded hw (m.values part) files with hnone | hfault
      · exact Or.inl ⟨[], hnone⟩
      · exact Or.inr ⟨hw, hfault⟩

end Configured

/-- A subject that has to be short, and texts that should not be empty. -/
def shortSubject : List (Text × Entry) :=
  [("subject-max-length".toList, .given (.list [.int 2, .text "always".toList, .int 3])),
   ("footer-empty".toList, .given (.list [.int 1, .text "never".toList]))]

theorem process_verdict_shortSubject :
    ∃ m, parse .standard "fix: tests\n\nSigned-off-by:".toList = .ok m ∧
      (∀ f ∈ m.footers, Footer.normalizeToken f.token = f.token) ∧
      ∃ p, m.process (.ofEntries .lax shortSubject) false none = .ok p ∧ p.valid = false ∧
        (p.reports.flatMap fun rep => rep.errors ++ rep.warnings).Perm
          ["[subject:0] The subject must always be 3 characters or fewer".toList,
            "[footer:0] The footer must never be empty".toList] ∧
        ∀ rep ∈ p.reports, rep.type = Part.footer.name →
          ∃ i, rep.filter = m.footers[i]?.map Footer.token ∧
            (rep.errors ++ rep.warnings).Perm (messagesAt .lax shortSubject m none .footer i) := by
  let r := Rule.strict Part.subject.name .always (.maxLength 3)
  obtain ⟨m, hm, ht, hfound, hlong⟩ :
      ∃ m, parse .standard "fix: tests\n\nSigned-off-by:".toList = .ok m ∧
        (∀ f ∈ m.footers, Footer.normalizeToken f.token = f.token) ∧
        (configuredRules .lax shortSubject).flatMap
          (fun r => (m.violations none r).map Prod.snd) =
            ["[subject:0] The subject must always be 3 characters or fewer".toList,
              "[footer:0] The footer must never be empty".toList] ∧
        r.validate (m.values .subject) none ≠ .ok [] :=
    ⟨_, rfl, by decide +kernel, by decide +kernel, by decide +kernel⟩
  obtain ⟨p, hp, hvalid, hmessages, hreports, -⟩ := process_verdict .lax hm ht shortSubject none
  refine ⟨m, hm, ht, p, hp, ?_, hfound ▸ hmessages, hreports⟩
  rw [← Bool.not_eq_true, hvalid]
  intro hmet
  obtain ⟨part, hpart, found, hvalidate, hnone⟩ := hmet r (List.mem_cons_self)
  obtain rfl : Part.subject = part := Part.name_injective hpart
  exact hlong (hnone rfl ▸ hvalidate)

/-- A limit that cannot be written, in a rule that only warns. -/
def unwritableWarning : List (Text × Entry) :=
  [("subject-min-length".toList, minLengthEntry .warning Text.unwritable)]

/-- The breakdown of a rule that only warns makes a message invalid. -/
theorem process_unwritableWarning :
    (∀ r ∈ configuredRules .lax unwritableWarning, r.severity = .warning) ∧
      ∃ m, parse .standard "Add parser".toList = .ok m ∧
        (∀ f ∈ m.footers, Footer.normalizeToken f.token = f.token) ∧
        ∃ p, m.process (.ofEntries .lax unwritableWarning) false none = .ok p ∧
          p.valid = false := by
  let r : Rule := ⟨Part.subject.name, .warning, .always, .each (.minLength Text.unwritable)⟩
  have hrules : configuredRules .lax unwritableWarning = [r] :=
    configuredRules_singleton (createRule?_minLengthEntry .lax (by decide) Text.unwritable)
  obtain ⟨m, hm, ht, hsubject⟩ : ∃ m, parse .standard "Add parser".toList = .ok m ∧
      (∀ f ∈ m.footers, Footer.normalizeToken f.token = f.token) ∧
      m.values .subject = ["Add parser".toList] := ⟨_, rfl, by decide +kernel, by decide +kernel⟩
  have hshort : "Add parser".toList.length < Text.unwritable :=
    (by decide : (Test.minLength 10).IsWorded) 10 rfl
  have hfault : r.validate (m.values .subject) none = .error (.digits {}) := by
    rw [hsubject]
    exact Rule.validate_minLength_of_always le_rfl rfl rfl hshort none
  refine ⟨hrules ▸ List.forall_mem_singleton.mpr rfl, m, hm, ht, _, process_false _ none m, ?_⟩
  dsimp only
  rw [← Bool.not_eq_true, all_checkedReports_iff (writtenBack_of_parse hm ht _), hrules]
  intro hmet
  obtain ⟨part, hpart, found, hvalidate, -⟩ := hmet r List.mem_cons_self
  obtain rfl : Part.subject = part := Part.name_injective hpart
  cases hfault.symm.trans hvalidate

end Message

end CommitStandard
