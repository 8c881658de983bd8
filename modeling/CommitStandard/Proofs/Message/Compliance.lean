import Mathlib.Tactic
import CommitStandard.Proofs.Message.Unrepaired

/-!
# Repairing compliant messages

Where checking reports nothing, every stage of a run with repairs does what it does
without them, so that the two runs agree (`process_true_of_clean`). What both may
still change is what writing a value back changes (`process_compliant`).
-/
namespace CommitStandard

/-- A violation gives a message at its index. -/
theorem Violations.isEmpty_of_messagesAt {v : Violations}
    (h : ∀ i ∈ v.indexes, v.messagesAt i = []) : v.isEmpty = true := by
  rw [← isEmpty_messages, messages, List.flatMap_eq_nil_iff.mpr h]
  rfl

namespace Message

section Clean

variable {e : Engine} {files : Option ChangedFiles}

/-- A check of a part that reports nothing is the same with repairs. -/
theorem evaluate?_true {part : Part} {values : List Text}
    (h : e.checkReports files part values = []) :
    Run.evaluate? ⟨true, files⟩ e part values = Run.evaluate? ⟨false, files⟩ e part values := by
  rw [Engine.checkReports, Option.toList_eq_nil_iff, Report.ofEvaluation?,
    Report.ofMessages?] at h
  split at h
  · rename_i hempty
    obtain ⟨herrors, hwarnings⟩ := Bool.and_eq_true_iff.mp hempty
    rw [Violations.isEmpty_messages] at herrors hwarnings
    rw [Run.evaluate?, Run.evaluate?, Engine.evaluate_true_of_clean _ _ _ herrors hwarnings]
  · cases h

theorem processField_true (h : Header) (field : HeaderField)
    (hclean : (processField ⟨false, files⟩ e h field).2 = []) :
    processField ⟨true, files⟩ e h field = processField ⟨false, files⟩ e h field := by
  rw [processField_false] at hclean
  rw [processField, evaluate?_true hclean, processField]

theorem processFields_true (h : Header) (fields : List HeaderField)
    (hclean : (processFields ⟨false, files⟩ e h fields).2 = []) :
    processFields ⟨true, files⟩ e h fields = processFields ⟨false, files⟩ e h fields := by
  induction fields generalizing h with
  | nil => rfl
  | cons field fields ih =>
    simp only [processFields] at hclean ⊢
    obtain ⟨hfield, hfields⟩ := List.append_eq_nil_iff.mp hclean
    rw [processField_true h field hfield, ih _ hfields]

theorem processHeader_true (h : Header)
    (hclean : e.checkReports files .header [h.render] = []) :
    processHeader ⟨true, files⟩ e h = processHeader ⟨false, files⟩ e h := by
  rw [processHeader, evaluate?_true hclean, processHeader]

theorem processBody_true (body : Text) (hclean : e.checkReports files .body [body] = []) :
    processBody ⟨true, files⟩ e body = processBody ⟨false, files⟩ e body := by
  rw [processBody, evaluate?_true hclean, processBody]

/-- Without reports about single footers there are no violations in any of them. -/
theorem isEmpty_of_footerReports {fs : List Footer} {found : Evaluation}
    (h : (Violations.sortIndexes (found.errors.indexes ++ found.warnings.indexes)).filterMap
      (footerReport? fs found) = []) :
    found.errors.isEmpty = true ∧ found.warnings.isEmpty = true := by
  have hnone : ∀ i, i ∈ found.errors.indexes ∨ i ∈ found.warnings.indexes →
      found.errors.messagesAt i = [] ∧ found.warnings.messagesAt i = [] := by
    intro i hi
    have hreport := List.filterMap_eq_nil_iff.mp h i
      (Violations.mem_sortIndexes.mpr (List.mem_append.mpr hi))
    rw [footerReport?, Report.ofMessages?] at hreport
    split at hreport
    · rename_i hempty
      simpa using hempty
    · cases hreport
  exact ⟨Violations.isEmpty_of_messagesAt fun i hi => (hnone i (Or.inl hi)).1,
    Violations.isEmpty_of_messagesAt fun i hi => (hnone i (Or.inr hi)).2⟩

theorem processTexts_true (fs : List Footer) (hclean : textReports e files fs = []) :
    processTexts ⟨true, files⟩ e fs = processTexts ⟨false, files⟩ e fs := by
  obtain ⟨herrors, hwarnings⟩ := isEmpty_of_footerReports hclean
  rw [processTexts, processTexts, Run.evaluate?, Run.evaluate?,
    Engine.evaluate_true_of_clean _ _ _ herrors hwarnings]

theorem processTokens_true (fs : List Footer)
    (hclean : e.checkReports files .trailer (fs.map Footer.token) = []) :
    processTokens ⟨true, files⟩ e fs = processTokens ⟨false, files⟩ e fs := by
  rw [processTokens, evaluate?_true hclean, processTokens]

theorem processLines_true (fs : List Footer)
    (hclean : e.checkReports files .footers (fs.map Footer.plain) = []) :
    processLines ⟨true, files⟩ e fs = processLines ⟨false, files⟩ e fs := by
  rw [processLines, evaluate?_true hclean, processLines]

/-- A run with repairs agrees with one without, where that one reports nothing. -/
theorem process_true_of_clean {m : Message} (hclean : m.checkedReports e files = []) :
    m.process e true files = m.process e false files := by
  simp only [checkedReports, List.append_eq_nil_iff] at hclean
  obtain ⟨⟨⟨⟨⟨hfields, hheader⟩, hbody⟩, htexts⟩, htokens⟩, hlines⟩ := hclean
  have hfields' : (processFields ⟨false, files⟩ e m.header HeaderField.all).2 = [] := by
    rw [processFields_false]
    exact hfields
  -- Each stage gets what the run without repairs hands it, which its reports are about.
  obtain ⟨fs, hfs⟩ : ∃ fs, (processTexts ⟨false, files⟩ e m.footers).1 = fs := ⟨_, rfl⟩
  have htokens' : e.checkReports files .trailer (fs.map Footer.token) = [] := by
    have hsame : fs.map Footer.token = m.trailers := by
      rw [← hfs, processTexts_false]
      exact List.map_map
    exact hsame ▸ htokens
  have hfooters : (processTokens ⟨false, files⟩ e fs).1 = m.footers.map (writtenFooter e) := by
    rw [← hfs, processTexts_false, processTokens_false]
    exact List.map_map
  unfold process
  simp only [processFields_true m.header HeaderField.all hfields', processFields_false,
    processHeader_true (writtenHeader e m.header) hheader, processBody_true m.body hbody,
    processTexts_true m.footers htexts, hfs, processTokens_true fs htokens', hfooters,
    processLines_true (m.footers.map (writtenFooter e)) hlines]

end Clean

/-- Where checking a message reports nothing, repairing it gives the same message, which is valid
and is the one given exactly if writing the parts with rules back leaves it so. -/
theorem process_compliant (m : Message) (e : Engine) (files : Option ChangedFiles) :
    ∃ p, m.process e false files = .ok p ∧
      (p.reports = [] → m.process e true files = .ok p ∧ p.valid = true ∧
        (p.message = m ↔ ∀ part, (e.forPart part).rules ≠ [] → m.IsSteady part)) := by
  refine ⟨_, process_false e files m, fun hclean => ?_⟩
  have hclean : m.checkedReports e files = [] := hclean
  refine ⟨?_, ?_, writtenBack_eq_iff⟩
  · rw [process_true_of_clean hclean, process_false]
  · rw [hclean]
    rfl

theorem process_compliant_plainToken :
    ∃ m, parse .standard "X\n\nsigned-off-by: t".toList = .ok m ∧
      ∃ p, m.process (.ofRules .lax oneForbidden) false none = .ok p ∧ p.reports = [] ∧
        m.process (.ofRules .lax oneForbidden) true none = .ok p ∧ p.valid = true ∧
        p.message = m := by
  obtain ⟨m, hm, p, hp, hclean, hsteady⟩ :
      ∃ m, parse .standard "X\n\nsigned-off-by: t".toList = .ok m ∧
        ∃ p, m.process (.ofRules .lax oneForbidden) false none = .ok p ∧ p.reports = [] ∧
          ∀ f ∈ m.footers, Footer.respell f.token = f.token :=
    ⟨_, rfl, _, rfl, by decide +kernel, by decide +kernel⟩
  obtain ⟨q, hq, hcompliant⟩ := process_compliant m (.ofRules .lax oneForbidden) none
  obtain rfl := Except.ok.inj (hp.symm.trans hq)
  obtain ⟨hrepaired, hvalid, hsame⟩ := hcompliant hclean
  refine ⟨m, hm, p, hp, hclean, hrepaired, hvalid, hsame.mpr fun part hpart => ?_⟩
  cases part with
  | trailer => exact hsteady
  | _ => exact absurd rfl hpart

/-- A repair respells a token that no rule is against. -/
theorem process_rewrites_compliant :
    ∃ m, parse .standard "X\n\na1b: t".toList = .ok m ∧
      ∃ p, m.process (.ofRules .lax oneForbidden) false none = .ok p ∧ p.reports = [] ∧
      ∃ q, m.process (.ofRules .lax oneForbidden) true none = .ok q ∧ q.reports = [] ∧
        m.trailers = ["A-1b".toList] ∧ q.message.trailers = ["A-1-b".toList] ∧
        q.message.render ≠ m.render :=
  ⟨_, rfl, _, rfl, by decide +kernel, _, rfl, by decide +kernel, by decide +kernel,
    by decide +kernel, by decide +kernel⟩

end Message

end CommitStandard
