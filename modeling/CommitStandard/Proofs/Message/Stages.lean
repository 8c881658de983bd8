import Mathlib.Tactic
import CommitStandard.Message.Process
import CommitStandard.Proofs.Rule.Strict

/-!
# Stages of processing

A stage without rules changes nothing and reports nothing, so that processing
under an engine for a few parts comes down to the stages of those parts. The stage
of a part with strict rules finds no error exactly if the rules leave a value.
-/
namespace CommitStandard

/-- The report of an evaluation has no error exactly if the evaluation has none. -/
theorem Report.all_ofEvaluation? (part : Part) (e : Evaluation) :
    (Report.ofEvaluation? part e).toList.all (·.errors.isEmpty) = e.errors.isEmpty := by
  have herrors := e.errors.isEmpty_messages
  unfold Report.ofEvaluation? Report.ofMessages?
  cases hw : e.warnings.messages.isEmpty <;> cases he : e.errors.messages.isEmpty <;>
    simp [← herrors, he]

namespace Message

variable {run : Run} {engine : Engine} {part : Part}

section Idle

theorem evaluate?_eq_none (h : (engine.forPart part).rules = []) (values : List Text) :
    run.evaluate? engine part values = none := by
  rw [Run.evaluate?, Engine.isEmpty, h]
  rfl

theorem processField_eq_self {field : HeaderField} (h : (engine.forPart field.part).rules = [])
    (header : Header) : processField run engine header field = (header, []) := by
  rw [processField, evaluate?_eq_none h]

theorem processFields_eq_self {fields : List HeaderField}
    (h : ∀ field ∈ fields, (engine.forPart field.part).rules = []) (header : Header) :
    processFields run engine header fields = (header, []) := by
  induction fields with
  | nil => rfl
  | cons field fields ih =>
    have hfield := @processField_eq_self run engine field (h field List.mem_cons_self) header
    have hrest := ih fun f hf => h f (List.mem_cons_of_mem field hf)
    rw [processFields, hfield]
    simp only [hrest, List.append_nil]

theorem processHeader_eq_self (h : (engine.forPart .header).rules = []) (header : Header) :
    processHeader run engine header = .ok (header, []) := by
  rw [processHeader, evaluate?_eq_none h]
  rfl

theorem processBody_eq_self (h : (engine.forPart .body).rules = []) (body : Text) :
    processBody run engine body = (body, []) := by
  rw [processBody, evaluate?_eq_none h]

theorem processTexts_eq_self (h : (engine.forPart .footer).rules = []) (footers : List Footer) :
    processTexts run engine footers = (footers, []) := by
  rw [processTexts, evaluate?_eq_none h]

theorem processTokens_eq_self (h : (engine.forPart .trailer).rules = []) (footers : List Footer) :
    processTokens run engine footers = (footers, []) := by
  rw [processTokens, evaluate?_eq_none h]

theorem processLines_eq_self (h : (engine.forPart .footers).rules = []) (footers : List Footer) :
    processLines run engine footers = (footers, []) := by
  rw [processLines, evaluate?_eq_none h]

end Idle

/-- The evaluation of strict rules has no error exactly if they leave a value. -/
theorem evaluate?_strict {ts : List (Applicability × Test)}
    (hr : (engine.forPart part).rules.map Prod.snd =
      ts.map fun t => Rule.strict part.name t.1 t.2) (hne : ts ≠ [])
    (hw : ∀ t ∈ ts, t.2.IsWorded) (s : Text) :
    ∃ e, run.evaluate? engine part [s] = some e ∧
      e.errors.isEmpty = (leaveAll? run.attemptFix ts s).isSome ∧
      ∀ s', leaveAll? run.attemptFix ts s = some s' → e.firstValue = s' := by
  have hrules : (engine.forPart part).isEmpty = false := by
    have hmap : (engine.forPart part).rules.map Prod.snd ≠ [] := by
      rw [hr]
      simpa using hne
    rw [Engine.isEmpty, List.isEmpty_eq_false_iff]
    intro h0
    exact hmap (by rw [h0]; rfl)
  obtain ⟨hsome, hnone⟩ :=
    @foldl_strict run.attemptFix run.files ⟨[s], .none, .none⟩ s part.name ts hw rfl
  refine ⟨(engine.forPart part).evaluate [s] run.attemptFix run.files, ?_, ?_, ?_⟩
  · rw [Run.evaluate?, hrules]
    rfl
  · rw [Engine.evaluate, hr]
    cases hl : leaveAll? run.attemptFix ts s with
    | none => exact hnone hl
    | some s' =>
      rw [hsome s' hl]
      rfl
  · intro s' hl
    rw [Engine.evaluate, hr, hsome s' hl]
    rfl

end Message

end CommitStandard
