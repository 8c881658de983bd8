import Mathlib.Tactic
import CommitStandard.Proofs.Engine.Dependability
import CommitStandard.Proofs.Message.Verdict

/-!
# Rules that only warn

A worded rule whose violations are warnings adds no error to an evaluation, with repairs and without
(`errors_evaluate`), so that the reports about the fields, the header line, the body and the
footers have none. Only where repairs change the footer lines, and the lines are read again, can
there be errors: one for each line that is no footer (`process_warnings`).
-/
namespace CommitStandard

variable {c : Coercions}

/-- Whether all rules of an engine are built-in and worded ones whose violations are warnings. -/
def Engine.OnlyWarns (e : Engine) : Prop :=
  ∀ rule ∈ e.rules, rule.2.IsBuiltIn ∧ rule.2.IsWorded ∧ rule.2.severity = .warning

theorem onlyWarns_ofEntries {entries : List (Text × Entry)}
    (h : ∀ r ∈ configuredRules c entries, r.severity = .warning ∧ r.IsWorded) :
    (Engine.ofEntries c entries).OnlyWarns := by
  intro rule hrule
  obtain ⟨hsev, hw⟩ := h rule.2 (List.mem_map_of_mem hrule)
  exact ⟨isBuiltIn_ofEntries c entries rule hrule, hw, hsev⟩

section Evaluations

variable {r : Rule} {e : Engine} {attemptFix : Bool} {files : Option ChangedFiles}

theorem Rule.errors_check (h : r.severity = .warning) {values : List Text} {o : Rule.Outcome}
    (ho : r.check values attemptFix files = .ok o) : o.errors = [] := by
  have houtcome : ∀ output found, (r.outcome output found).errors = [] := fun output found => by
    rw [outcome, if_pos h]
  rw [check, if_neg (by rw [h]; decide)] at ho
  cases hfound : r.validate values files with
  | error fault =>
    rw [hfound] at ho
    cases ho
  | ok found =>
    simp only [hfound, bind, Except.bind, pure, Except.pure] at ho
    split at ho
    · rw [← Except.ok.inj ho]
    · split at ho
      · cases hfix : r.fix values files with
        | error fault =>
          rw [hfix] at ho
          cases ho
        | ok fixed =>
          rw [hfix] at ho
          rw [← Except.ok.inj ho, houtcome]
      · rw [← Except.ok.inj ho, houtcome]

/-- A rule that warns leaves the errors as they are. -/
theorem errors_step_of_warning (hb : r.IsBuiltIn) (hw : r.IsWorded) (h : r.severity = .warning)
    (found : Evaluation) : (Engine.step attemptFix files found r).errors = found.errors := by
  obtain ⟨o, ho⟩ := hb.exists_check_of_isWorded hw found.output attemptFix files
  rw [Engine.step, ho, Engine.record, Rule.errors_check h ho, Violations.record_nil]

/-- An evaluation under rules that warn has no errors. -/
theorem errors_evaluate (h : e.OnlyWarns) (values : List Text) :
    (e.evaluate values attemptFix files).errors = .none := by
  refine List.foldlRecOn (motive := fun found => Evaluation.errors found = .none) _ _ rfl ?_
  intro found hnone r hr
  obtain ⟨rule, hrule, rfl⟩ := List.mem_map.mp hr
  obtain ⟨hb, hw, hsev⟩ := h rule hrule
  rw [errors_step_of_warning hb hw hsev, hnone]

theorem Engine.OnlyWarns.forPart (h : e.OnlyWarns) (part : Part) : (e.forPart part).OnlyWarns :=
  fun rule hrule => h rule (List.mem_filter.mp hrule).1

end Evaluations

theorem Report.flatMap_errors_ofEvaluation? {part : Part} {found : Evaluation}
    (h : found.errors = .none) :
    (Report.ofEvaluation? part found).toList.flatMap Report.errors = [] := by
  have hall :=
    Report.flatMap_ofMessages? part none (fun σ => (found.violationsOf σ).messages) rfl .error
  refine Eq.trans hall ?_
  rw [Evaluation.violationsOf, h]
  rfl

/-- A line is refused only if its scopes would have to be split at nothing. -/
theorem Header.scopeDelimiter_of_parse {options : HeaderOptions} {line : Text} {e : ScopeError}
    (h : Header.parse options line = .error e) : options.scopeDelimiter = [] := by
  by_contra hne
  obtain ⟨header, hread⟩ := exists_parse_iff.mpr fun hempty => absurd hempty hne
  cases h.symm.trans hread

namespace Message

section Stages

variable {engine : Engine} (h : engine.OnlyWarns) (run : Run)

include h

theorem errors_of_evaluate? {part : Part} {values : List Text} {found : Evaluation}
    (hfound : run.evaluate? engine part values = some found) : found.errors = .none := by
  rw [Run.evaluate?] at hfound
  split at hfound
  · cases hfound
  · rw [← Option.some.inj hfound]
    exact errors_evaluate (h.forPart part) values

theorem errors_processField (header : Header) (field : HeaderField) :
    (processField run engine header field).1.options = header.options ∧
      (processField run engine header field).2.flatMap Report.errors = [] := by
  unfold processField
  split
  · exact ⟨rfl, rfl⟩
  · rename_i found hfound
    exact ⟨by cases field <;> rfl,
      Report.flatMap_errors_ofEvaluation? (errors_of_evaluate? h run hfound)⟩

theorem errors_processFields (header : Header) (fields : List HeaderField) :
    (processFields run engine header fields).1.options = header.options ∧
      (processFields run engine header fields).2.flatMap Report.errors = [] := by
  induction fields generalizing header with
  | nil => exact ⟨rfl, rfl⟩
  | cons field fields ih =>
    obtain ⟨hoptions, hnone⟩ := errors_processField h run header field
    obtain ⟨hoptions', hnone'⟩ := ih (processField run engine header field).1
    refine ⟨hoptions'.trans hoptions, ?_⟩
    rw [processFields, List.flatMap_append, hnone, hnone', List.append_nil]

/-- The repaired header line is refused only if scopes are joined by nothing. -/
theorem errors_processHeader (header : Header) :
    (∃ stage, processHeader run engine header = .ok stage ∧
        stage.2.flatMap Report.errors = []) ∨
      header.options.scopeDelimiter = [] ∧
        processHeader run engine header = .error .emptyDelimiter := by
  unfold processHeader
  split
  · exact Or.inl ⟨_, rfl, rfl⟩
  · rename_i found hfound
    have hnone : (Report.ofEvaluation? .header found).toList.flatMap Report.errors = [] :=
      Report.flatMap_errors_ofEvaluation? (errors_of_evaluate? h run hfound)
    dsimp only
    split
    · exact Or.inl ⟨_, rfl, hnone⟩
    · cases hreread : Header.parse header.options found.firstValue with
      | ok reread => exact Or.inl ⟨_, rfl, hnone⟩
      | error e => exact Or.inr ⟨Header.scopeDelimiter_of_parse hreread, rfl⟩

theorem errors_processBody (body : Text) :
    (processBody run engine body).2.flatMap Report.errors = [] := by
  unfold processBody
  split
  · rfl
  · rename_i found hfound
    exact Report.flatMap_errors_ofEvaluation? (errors_of_evaluate? h run hfound)

theorem errors_processTexts (footers : List Footer) :
    (processTexts run engine footers).2.flatMap Report.errors = [] := by
  unfold processTexts
  split
  · rfl
  · rename_i found hfound
    have hnone := errors_of_evaluate? h run hfound
    rw [List.flatMap_eq_nil_iff]
    intro rep hrep
    obtain ⟨index, -, hindex⟩ := List.mem_filterMap.mp hrep
    rw [footerReport?, Report.ofMessages?, hnone] at hindex
    split at hindex
    · cases hindex
    · rw [← Option.some.inj hindex]
      rfl

theorem errors_processTokens (footers : List Footer) :
    (processTokens run engine footers).2.flatMap Report.errors = [] := by
  unfold processTokens
  split
  · rfl
  · rename_i found hfound
    exact Report.flatMap_errors_ofEvaluation? (errors_of_evaluate? h run hfound)

end Stages

/-- The footer lines as repairs leave them, if they change any. -/
def rewrittenLines (run : Run) (engine : Engine) (footers : List Footer) : List Text :=
  match run.evaluate? engine .footers (footers.map Footer.plain) with
  | none => []
  | some found => if found.output = footers.map Footer.plain then [] else found.output

/-- The errors about footer lines are the wordings of why rewritten lines are no footers. -/
theorem errors_processLines {engine : Engine} (h : engine.OnlyWarns) (run : Run)
    (footers : List Footer) : (processLines run engine footers).2.flatMap Report.errors =
      (reread (rewrittenLines run engine footers)).2 := by
  unfold processLines rewrittenLines
  cases hfound : run.evaluate? engine .footers (footers.map Footer.plain) with
  | none => rfl
  | some found =>
    have hnone : (Report.ofEvaluation? .footers found).toList.flatMap Report.errors = [] :=
      Report.flatMap_errors_ofEvaluation? (errors_of_evaluate? h run hfound)
    dsimp only
    split
    · exact hnone
    · dsimp only
      cases hrefused : (reread found.output).2 with
      | nil => exact hnone
      | cons line lines =>
        cases hreport : Report.ofEvaluation? .footers found with
        | none => simp [Report.addErrors]
        | some report =>
          rw [hreport] at hnone
          have hreported : report.errors = [] := by simpa using hnone
          simp [Report.addErrors, hreported]

/-- Nothing is refused exactly if every line is a footer. -/
theorem reread_snd_eq_nil_iff (lines : List Text) :
    (reread lines).2 = [] ↔ ∀ line ∈ lines, ∃ f, Footer.parse line = .ok f := by
  induction lines with
  | nil => simp [reread]
  | cons line lines ih =>
    rw [reread, List.forall_mem_cons, ← ih]
    cases Footer.parse line <;> simp

/-- Without repairs no footer line is rewritten. -/
theorem rewrittenLines_false (files : Option ChangedFiles) (engine : Engine)
    (footers : List Footer) : rewrittenLines ⟨false, files⟩ engine footers = [] := by
  unfold rewrittenLines Run.evaluate?
  split
  · rfl
  · rename_i found hfound
    rw [if_pos]
    dsimp only at hfound
    split at hfound
    · cases hfound
    · rw [← Option.some.inj hfound]
      exact Engine.output_evaluate_false _ _ files

/-- The footers when their lines are looked at, their texts and tokens being repaired. -/
def repairedFooters (run : Run) (engine : Engine) (footers : List Footer) : List Footer :=
  (processTokens run engine (processTexts run engine footers).1).1

/-- The errors of a whole run. -/
theorem errors_process {engine : Engine} (h : engine.OnlyWarns) (m : Message)
    (attemptFix : Bool) (files : Option ChangedFiles) :
    (∃ p, m.process engine attemptFix files = .ok p ∧
        p.valid = p.reports.all (·.errors.isEmpty) ∧
        p.reports.flatMap Report.errors = (reread (rewrittenLines ⟨attemptFix, files⟩ engine
          (repairedFooters ⟨attemptFix, files⟩ engine m.footers))).2) ∨
      m.header.options.scopeDelimiter = [] ∧
        m.process engine attemptFix files = .error .emptyDelimiter := by
  obtain ⟨run, hrun⟩ : ∃ run : Run, run = ⟨attemptFix, files⟩ := ⟨_, rfl⟩
  unfold process
  rw [← hrun]
  obtain ⟨hoptions, hfields⟩ := errors_processFields h run m.header HeaderField.all
  rcases errors_processHeader h run (processFields run engine m.header HeaderField.all).1 with
    ⟨stage, hstage, hheader⟩ | ⟨hempty, hrefused⟩
  · refine Or.inl ⟨_, by simp only [hstage]; rfl, rfl, ?_⟩
    simp only [List.flatMap_append, hfields, hheader, errors_processBody h, errors_processTexts h,
      errors_processTokens h, errors_processLines h, List.nil_append]
    rfl
  · exact Or.inr ⟨hoptions ▸ hempty, by simp only [hrefused]; rfl⟩

/-- Under worded rules that only warn, checking a message finds no error, and a repair only in
footer lines that it has rewritten into lines that are no footers. The repair fails altogether only
where it has to split scopes at nothing. -/
theorem process_warnings {options : HeaderOptions} {s : Text} {m : Message}
    (hm : parse options s = .ok m) {entries : List (Text × Entry)}
    (h : ∀ r ∈ configuredRules c entries, r.severity = .warning ∧ r.IsWorded)
    (files : Option ChangedFiles) :
    (∃ p, m.process (.ofEntries c entries) false files = .ok p ∧ p.valid = true ∧
      ∀ rep ∈ p.reports, rep.errors = []) ∧
    ((∃ p, m.process (.ofEntries c entries) true files = .ok p ∧
        (p.valid = true ↔ ∀ line ∈ rewrittenLines ⟨true, files⟩ (.ofEntries c entries)
          (repairedFooters ⟨true, files⟩ (.ofEntries c entries) m.footers),
            ∃ f, Footer.parse line = .ok f) ∧
        p.reports.flatMap Report.errors = (reread (rewrittenLines ⟨true, files⟩
          (.ofEntries c entries)
            (repairedFooters ⟨true, files⟩ (.ofEntries c entries) m.footers))).2) ∨
      options.scopeDelimiter = [] ∧
        m.process (.ofEntries c entries) true files = .error .emptyDelimiter) := by
  have hwarns := onlyWarns_ofEntries h
  have hall : ∀ reports : List Report, reports.all (·.errors.isEmpty) = true ↔
      reports.flatMap Report.errors = [] := by
    intro reports
    simp [List.flatMap_eq_nil_iff]
  have hoptions : m.header.options = options := by
    obtain ⟨header, body, footers, hheader, rfl, -⟩ := eq_make_of_parse hm
    obtain ⟨ns, type, scopes, subject, breaking, rfl, -⟩ := Header.eq_make_of_parse hheader
    rfl
  constructor
  · have hprocess := process_false (.ofEntries c entries) files m
    rcases errors_process hwarns m false files with ⟨p, hp, hvalid, herrors⟩ | ⟨-, hrefused⟩
    · rw [rewrittenLines_false] at herrors
      refine ⟨p, hp, ?_, List.flatMap_eq_nil_iff.mp herrors⟩
      rw [hvalid]
      exact (hall _).mpr herrors
    · rw [hprocess] at hrefused
      cases hrefused
  · rcases errors_process hwarns m true files with ⟨p, hp, hvalid, herrors⟩ | ⟨hempty, hrefused⟩
    · refine Or.inl ⟨p, hp, ?_, herrors⟩
      rw [hvalid, hall, herrors, reread_snd_eq_nil_iff]
    · exact Or.inr ⟨hoptions ▸ hempty, hrefused⟩

/-- A full stop at the end of every footer line. -/
def stoppedLines : List (Text × Entry) :=
  [("footers-full-stop".toList, .given (.list [.int 1, .text "always".toList]))]

theorem process_warnings_stoppedLines :
    ∃ m, parse .standard "X\n\nRefs: abc".toList = .ok m ∧
      (∀ r ∈ configuredRules .lax stoppedLines, r.severity = .warning ∧ r.IsWorded) ∧
      (∃ p, m.process (.ofEntries .lax stoppedLines) false none = .ok p ∧ p.valid = true ∧
        ∀ rep ∈ p.reports, rep.errors = []) ∧
      ∃ p, m.process (.ofEntries .lax stoppedLines) true none = .ok p ∧ p.valid = true ∧
        ∀ rep ∈ p.reports, rep.errors = [] := by
  obtain ⟨m, hm, hlines⟩ : ∃ m, parse .standard "X\n\nRefs: abc".toList = .ok m ∧
      rewrittenLines ⟨true, none⟩ (.ofEntries .lax stoppedLines)
        (repairedFooters ⟨true, none⟩ (.ofEntries .lax stoppedLines) m.footers) =
          ["Refs: abc.".toList] := ⟨_, rfl, by decide +kernel⟩
  have hwarns : ∀ r ∈ configuredRules .lax stoppedLines, r.severity = .warning ∧ r.IsWorded := by
    decide +kernel
  have hread : (reread ["Refs: abc.".toList]).2 = [] := by decide +kernel
  obtain ⟨hcheck, ⟨p, hp, hvalid, herrors⟩ | ⟨hempty, -⟩⟩ := process_warnings hm hwarns none
  · rw [hlines] at hvalid herrors
    exact ⟨m, hm, hwarns, hcheck, p, hp, hvalid.mpr ((reread_snd_eq_nil_iff _).mp hread),
      List.flatMap_eq_nil_iff.mp (herrors.trans hread)⟩
  · exact absurd hempty (by decide)

/-- Footer lines of at most three characters. -/
def shortLines : List (Text × Entry) :=
  [("footers-max-length".toList, .given (.list [.int 1, .text "always".toList, .int 3]))]

/-- A header line that ends in a scope and a subject. -/
def scopedLine : List (Text × Entry) :=
  [("header-full-stop".toList,
    .given (.list [.int 1, .text "always".toList, .text "(a): b".toList]))]

/-- A footer line that is cut inside its token, and a subject that becomes a scope to be split at
nothing. -/
theorem process_fails_onlyWarns :
    (∃ m, parse .standard "X\n\nRefs: abc".toList = .ok m ∧
      (∀ r ∈ configuredRules .lax shortLines, r.severity = .warning ∧ r.IsWorded) ∧
      ∃ p, m.process (.ofEntries .lax shortLines) true none = .ok p ∧ p.valid = false ∧
        p.reports.flatMap Report.errors =
          [InvalidFooter.message ⟨"Ref".toList⟩]) ∧
    ∃ m, parse ⟨[], "⚠️".toList⟩ "X".toList = .ok m ∧
      (∀ r ∈ configuredRules .lax scopedLine, r.severity = .warning ∧ r.IsWorded) ∧
      m.process (.ofEntries .lax scopedLine) true none = .error .emptyDelimiter :=
  ⟨⟨_, rfl, by decide +kernel, _, rfl, by decide +kernel, by decide +kernel⟩,
    _, rfl, by decide +kernel, by rfl⟩

end Message

end CommitStandard
