import Mathlib.Tactic
import CommitStandard.Proofs.Message.Stages
import CommitStandard.Proofs.Rule.Standard

/-!
# Processing under the default rules

The default rules are strict rules on the type, the subject and the body, and no
others. A message is valid exactly if each of the three is left by its rules
(`process_standard`), and what is left is put into the message, the two fields of
the header trimmed once more.
-/
namespace CommitStandard

def Engine.standard : Engine := Engine.ofRules .lax defaultRules

/-- Strict rules on a part under identifiers. -/
def strictRules (part : Part) (ids : List String) (ts : List (Applicability × Test)) :
    List (Text × Rule) :=
  List.zipWith (fun id t => (id.toList, Rule.strict part.name t.1 t.2)) ids ts

theorem rules_standard : Engine.standard.rules =
    strictRules .subject ["subject-empty", "subject-full-stop", "subject-case",
        "subject-min-length", "subject-max-length"] subjectTests ++
      strictRules .body ["body-max-line-length"] bodyTests ++
      strictRules .type ["type-enum", "type-empty"] typeTests := by
  rfl

theorem rules_type : (Engine.standard.forPart .type).rules.map Prod.snd =
    typeTests.map fun t => Rule.strict Part.type.name t.1 t.2 := by
  rw [Engine.forPart, Engine.narrow, rules_standard]
  rfl

theorem rules_subject : (Engine.standard.forPart .subject).rules.map Prod.snd =
    subjectTests.map fun t => Rule.strict Part.subject.name t.1 t.2 := by
  rw [Engine.forPart, Engine.narrow, rules_standard]
  rfl

theorem rules_body : (Engine.standard.forPart .body).rules.map Prod.snd =
    bodyTests.map fun t => Rule.strict Part.body.name t.1 t.2 := by
  rw [Engine.forPart, Engine.narrow, rules_standard]
  rfl

theorem rules_other {part : Part} (ht : part ≠ .type) (hs : part ≠ .subject) (hb : part ≠ .body) :
    (Engine.standard.forPart part).rules = [] := by
  rw [Engine.forPart, Engine.narrow, rules_standard]
  cases part <;> first | rfl | contradiction

namespace Message

/-- Of the fields of a header, the type and the subject have rules. -/
theorem processFields_standard {run : Run} {h : Header} {t s : Evaluation}
    (ht : run.evaluate? Engine.standard .type [h.type] = some t)
    (hs : run.evaluate? Engine.standard .subject [h.subject] = some s) :
    processFields run Engine.standard h HeaderField.all =
      ((h.setType t.firstValue).setSubject s.firstValue,
        (Report.ofEvaluation? .type t).toList ++ (Report.ofEvaluation? .subject s).toList) := by
  have hnameSpace : ∀ k, processField run Engine.standard k .nameSpace = (k, []) :=
    processField_eq_self (rules_other (by decide) (by decide) (by decide))
  have hscope : ∀ k, processField run Engine.standard k .scope = (k, []) :=
    processField_eq_self (rules_other (by decide) (by decide) (by decide))
  have htype : processField run Engine.standard h .type =
      (h.setType t.firstValue, (Report.ofEvaluation? .type t).toList) := by
    rw [processField, HeaderField.part, fieldValues, ht]
    rfl
  have hsame : (h.setType t.firstValue).subject = h.subject := rfl
  have hsubject : processField run Engine.standard (h.setType t.firstValue) .subject =
      ((h.setType t.firstValue).setSubject s.firstValue,
        (Report.ofEvaluation? .subject s).toList) := by
    rw [processField, HeaderField.part, fieldValues, hsame, hs]
    rfl
  simp only [HeaderField.all, processFields, hnameSpace, htype, hscope, hsubject,
    List.nil_append, List.append_nil]

/-- The type, the subject and the body are what is evaluated and changed; footers stay. -/
theorem process_of_evaluations {m : Message} {fix : Bool} {files : Option ChangedFiles}
    {t s b : Evaluation}
    (ht : Run.evaluate? ⟨fix, files⟩ Engine.standard .type [m.header.type] = some t)
    (hs : Run.evaluate? ⟨fix, files⟩ Engine.standard .subject [m.header.subject] = some s)
    (hb : Run.evaluate? ⟨fix, files⟩ Engine.standard .body [m.body] = some b) :
    m.process Engine.standard fix files =
      .ok ⟨{ m with
          header := (m.header.setType t.firstValue).setSubject s.firstValue
          body := b.firstValue },
        ((Report.ofEvaluation? .type t).toList ++ (Report.ofEvaluation? .subject s).toList ++
          (Report.ofEvaluation? .body b).toList).all (·.errors.isEmpty),
        (Report.ofEvaluation? .type t).toList ++ (Report.ofEvaluation? .subject s).toList ++
          (Report.ofEvaluation? .body b).toList⟩ := by
  have hidle : ∀ part, part ≠ .type → part ≠ .subject → part ≠ .body →
      (Engine.standard.forPart part).rules = [] := fun part => rules_other
  obtain ⟨run, hrun⟩ : ∃ run : Run, run = ⟨fix, files⟩ := ⟨_, rfl⟩
  unfold process
  rw [← hrun] at ht hs hb ⊢
  have hfields := processFields_standard ht hs
  have hbodyStage : processBody run Engine.standard m.body =
      (b.firstValue, (Report.ofEvaluation? .body b).toList) := by
    rw [processBody, hb]
  have hheader : ∀ h, processHeader run Engine.standard h = .ok (h, []) :=
    processHeader_eq_self (hidle _ (by decide) (by decide) (by decide))
  have htexts : ∀ fs, processTexts run Engine.standard fs = (fs, []) :=
    processTexts_eq_self (hidle _ (by decide) (by decide) (by decide))
  have htokens : ∀ fs, processTokens run Engine.standard fs = (fs, []) :=
    processTokens_eq_self (hidle _ (by decide) (by decide) (by decide))
  have hlines : ∀ fs, processLines run Engine.standard fs = (fs, []) :=
    processLines_eq_self (hidle _ (by decide) (by decide) (by decide))
  simp only [hfields, hheader, hbodyStage, htexts, htokens, hlines, bind, Except.bind,
    List.append_nil]
  rfl

/-- A message is valid under the default rules exactly if they leave its type, its subject and
its body, which are put into the message then. -/
theorem process_standard (m : Message) (fix : Bool) (files : Option ChangedFiles) :
    ∃ p, m.process Engine.standard fix files = .ok p ∧
      p.valid = ((leaveAll? fix typeTests m.header.type).isSome &&
        (leaveAll? fix subjectTests m.header.subject).isSome &&
        (leaveAll? fix bodyTests m.body).isSome) ∧
      ∀ type subject body, leaveAll? fix typeTests m.header.type = some type →
        leaveAll? fix subjectTests m.header.subject = some subject →
        leaveAll? fix bodyTests m.body = some body →
        p.message = { m with header := (m.header.setType type).setSubject subject, body } := by
  obtain ⟨t, ht, htype, htleft⟩ :=
    @evaluate?_strict ⟨fix, files⟩ _ _ _ rules_type (by simp [typeTests]) (by decide) m.header.type
  obtain ⟨s, hs, hsubject, hsleft⟩ :=
    @evaluate?_strict ⟨fix, files⟩ _ _ _ rules_subject (by simp [subjectTests]) (by decide)
      m.header.subject
  obtain ⟨b, hb, hbody, hbleft⟩ :=
    @evaluate?_strict ⟨fix, files⟩ _ _ _ rules_body (by simp [bodyTests]) (by decide) m.body
  have hprocess := process_of_evaluations ht hs hb
  refine ⟨_, hprocess, ?_, ?_⟩
  · simp only [List.all_append, Report.all_ofEvaluation?, htype, hsubject, hbody]
  · intro type subject body hty hsu hbo
    rw [htleft type hty, hsleft subject hsu, hbleft body hbo]

end Message

end CommitStandard
