import Mathlib.Tactic
import CommitStandard.Message.Process
import CommitStandard.Proofs.Engine.Checking

/-!
# Processing without repairs

Without repairs the values of a part stay as they are, and yet they are written
back to the part if it has rules, through the operations that trim a field and
respell a token. `process_false` says what becomes of a message, and
`writtenBack_eq_iff` when that is the message itself.
-/
namespace CommitStandard

/-- A value after writing it back to a part, which happens if the part has rules. -/
def Engine.writeBack {α : Type} (e : Engine) (part : Part) (f : α → α) (x : α) : α :=
  if (e.forPart part).isEmpty then x else f x

theorem Engine.writeBack_eq_iff {α : Type} {e : Engine} {part : Part} {f : α → α} {x : α} :
    e.writeBack part f x = x ↔ ((e.forPart part).rules ≠ [] → f x = x) := by
  unfold writeBack isEmpty
  cases (e.forPart part).rules <;> simp

/-- The report of a check of a part, if it found anything. -/
def Engine.checkReports (e : Engine) (files : Option ChangedFiles) (part : Part)
    (values : List Text) : List Report :=
  (Report.ofEvaluation? part ((e.forPart part).evaluate values false files)).toList

theorem Engine.checkReports_of_isEmpty {e : Engine} {part : Part}
    (h : (e.forPart part).isEmpty = true) (files : Option ChangedFiles) (values : List Text) :
    e.checkReports files part values = [] := by
  rw [isEmpty, List.isEmpty_iff] at h
  rw [checkReports, evaluate, h]
  rfl

/-- The token that is left where its own spelling is set. -/
def Footer.respell (token : Text) : Text :=
  if Text.isBlankText token then token else normalizeToken token

theorem Footer.setToken_token (f : Footer) :
    f.setToken f.token = { f with token := respell f.token } := by
  unfold setToken respell
  split <;> rfl

namespace Message

def values (m : Message) : Part → List Text
  | .nameSpace => [m.header.nameSpace]
  | .type => [m.header.type]
  | .scope => m.header.scopes
  | .subject => [m.header.subject]
  | .header => [m.header.render]
  | .body => [m.body]
  | .footer => m.footers.map Footer.text
  | .trailer => m.trailers
  | .footers => m.footers.map Footer.plain

/-- The header after writing its fields back. -/
def writtenHeader (e : Engine) (h : Header) : Header :=
  { h with
    nameSpace := e.writeBack .nameSpace Text.strip h.nameSpace
    type := e.writeBack .type Text.strip h.type
    scopes := e.writeBack .scope Header.distinctScopes h.scopes
    subject := e.writeBack .subject Text.strip h.subject }

/-- The footer after writing its text and its token back. -/
def writtenFooter (e : Engine) (f : Footer) : Footer :=
  { f with
    token := e.writeBack .trailer Footer.respell f.token
    text := e.writeBack .footer Text.strip f.text }

/-- The message after writing the values of its parts back. -/
def writtenBack (e : Engine) (m : Message) : Message :=
  { m with
    header := writtenHeader e m.header
    footers := m.footers.map (writtenFooter e) }

/-- Whether writing back its values leaves a part as it is. -/
def IsSteady (m : Message) : Part → Prop
  | .nameSpace => Text.strip m.header.nameSpace = m.header.nameSpace
  | .type => Text.strip m.header.type = m.header.type
  | .scope => Header.distinctScopes m.header.scopes = m.header.scopes
  | .subject => Text.strip m.header.subject = m.header.subject
  | .footer => ∀ f ∈ m.footers, Text.strip f.text = f.text
  | .trailer => ∀ f ∈ m.footers, Footer.respell f.token = f.token
  | .header | .body | .footers => True

theorem writtenHeader_eq_iff {e : Engine} {m : Message} :
    writtenHeader e m.header = m.header ↔
      ∀ field : HeaderField, (e.forPart field.part).rules ≠ [] → m.IsSteady field.part := by
  rw [writtenHeader]
  constructor
  · intro h field hrules
    cases field with
    | nameSpace => exact Engine.writeBack_eq_iff.mp (congrArg Header.nameSpace h) hrules
    | type => exact Engine.writeBack_eq_iff.mp (congrArg Header.type h) hrules
    | scope => exact Engine.writeBack_eq_iff.mp (congrArg Header.scopes h) hrules
    | subject => exact Engine.writeBack_eq_iff.mp (congrArg Header.subject h) hrules
  · intro h
    have hnameSpace : e.writeBack .nameSpace Text.strip m.header.nameSpace = m.header.nameSpace :=
      Engine.writeBack_eq_iff.mpr (h .nameSpace)
    have htype : e.writeBack .type Text.strip m.header.type = m.header.type :=
      Engine.writeBack_eq_iff.mpr (h .type)
    have hscopes : e.writeBack .scope Header.distinctScopes m.header.scopes = m.header.scopes :=
      Engine.writeBack_eq_iff.mpr (h .scope)
    have hsubject : e.writeBack .subject Text.strip m.header.subject = m.header.subject :=
      Engine.writeBack_eq_iff.mpr (h .subject)
    rw [hnameSpace, htype, hscopes, hsubject]

theorem map_writtenFooter_eq_iff {e : Engine} {m : Message} :
    m.footers.map (writtenFooter e) = m.footers ↔
      ((e.forPart .footer).rules ≠ [] → m.IsSteady .footer) ∧
        ((e.forPart .trailer).rules ≠ [] → m.IsSteady .trailer) := by
  have hfooter : ∀ f, writtenFooter e f = f ↔
      ((e.forPart .footer).rules ≠ [] → Text.strip f.text = f.text) ∧
        ((e.forPart .trailer).rules ≠ [] → Footer.respell f.token = f.token) := by
    intro f
    rw [← Engine.writeBack_eq_iff, ← Engine.writeBack_eq_iff]
    constructor
    · intro h
      exact ⟨congrArg Footer.text h, congrArg Footer.token h⟩
    · rintro ⟨htext, htoken⟩
      rw [writtenFooter, htext, htoken]
  have hmap : m.footers.map (writtenFooter e) = m.footers ↔
      ∀ f ∈ m.footers, writtenFooter e f = f := by
    rw [← List.map_inj_left, List.map_id' m.footers]
  rw [hmap]
  constructor
  · intro h
    exact ⟨fun hrules f hf => ((hfooter f).mp (h f hf)).1 hrules,
      fun hrules f hf => ((hfooter f).mp (h f hf)).2 hrules⟩
  · rintro ⟨htext, htoken⟩ f hf
    exact (hfooter f).mpr ⟨fun hrules => htext hrules f hf, fun hrules => htoken hrules f hf⟩

/-- Writing back leaves a message as it is exactly if it leaves every part with rules so. -/
theorem writtenBack_eq_iff {e : Engine} {m : Message} :
    m.writtenBack e = m ↔ ∀ part, (e.forPart part).rules ≠ [] → m.IsSteady part := by
  have hparts : m.writtenBack e = m ↔
      writtenHeader e m.header = m.header ∧ m.footers.map (writtenFooter e) = m.footers := by
    constructor
    · intro h
      exact ⟨congrArg Message.header h, congrArg Message.footers h⟩
    · rintro ⟨hheader, hfooters⟩
      rw [writtenBack, hheader, hfooters]
  rw [hparts, writtenHeader_eq_iff, map_writtenFooter_eq_iff]
  constructor
  · rintro ⟨hfield, hfooter, htrailer⟩ part hrules
    cases part with
    | nameSpace => exact hfield .nameSpace hrules
    | type => exact hfield .type hrules
    | scope => exact hfield .scope hrules
    | subject => exact hfield .subject hrules
    | footer => exact hfooter hrules
    | trailer => exact htrailer hrules
    | header | body | footers => trivial
  · intro h
    exact ⟨fun field => h field.part, h .footer, h .trailer⟩

section Stages

variable (e : Engine) (files : Option ChangedFiles)

/-- A header after writing back one of its fields. -/
def writtenField (e : Engine) (h : Header) : HeaderField → Header
  | .nameSpace => { h with nameSpace := e.writeBack .nameSpace Text.strip h.nameSpace }
  | .type => { h with type := e.writeBack .type Text.strip h.type }
  | .scope => { h with scopes := e.writeBack .scope Header.distinctScopes h.scopes }
  | .subject => { h with subject := e.writeBack .subject Text.strip h.subject }

theorem processField_false (h : Header) (field : HeaderField) :
    processField ⟨false, files⟩ e h field =
      (writtenField e h field, e.checkReports files field.part (fieldValues h field)) := by
  rw [processField, Run.evaluate?]
  by_cases hempty : (e.forPart field.part).isEmpty = true
  · rw [if_pos hempty, Engine.checkReports_of_isEmpty hempty]
    cases field <;> simp only [writtenField, Engine.writeBack, HeaderField.part] at hempty ⊢ <;>
      rw [if_pos hempty]
  · rw [if_neg hempty]
    have hout := (e.forPart field.part).output_evaluate_false (fieldValues h field) files
    cases field <;>
      simp only [setField, writtenField, Engine.writeBack, Evaluation.firstValue, HeaderField.part,
        fieldValues] at hempty hout ⊢ <;>
      rw [if_neg hempty, hout] <;> rfl

/-- The fields of the header do not depend on each other. -/
theorem processFields_false (m : Message) :
    processFields ⟨false, files⟩ e m.header HeaderField.all =
      (writtenHeader e m.header, [.nameSpace, .type, .scope, .subject].flatMap fun part =>
        e.checkReports files part (m.values part)) := by
  simp only [HeaderField.all, processFields, processField_false, List.flatMap_cons,
    List.flatMap_nil]
  rfl

theorem processHeader_false (h : Header) :
    processHeader ⟨false, files⟩ e h = .ok (h, e.checkReports files .header [h.render]) := by
  rw [processHeader, Run.evaluate?]
  by_cases hempty : (e.forPart .header).isEmpty = true
  · rw [if_pos hempty, Engine.checkReports_of_isEmpty hempty]
    rfl
  · have hfirst : ((e.forPart .header).evaluate [h.render] false files).firstValue = h.render := by
      rw [Evaluation.firstValue, Engine.output_evaluate_false]
      rfl
    rw [if_neg hempty]
    simp only [hfirst, if_true]
    rfl

theorem processBody_false (body : Text) :
    processBody ⟨false, files⟩ e body = (body, e.checkReports files .body [body]) := by
  rw [processBody, Run.evaluate?]
  by_cases hempty : (e.forPart .body).isEmpty = true
  · rw [if_pos hempty, Engine.checkReports_of_isEmpty hempty]
  · rw [if_neg hempty]
    simp only [Evaluation.firstValue, Engine.output_evaluate_false]
    rfl

theorem setTexts_texts (fs : List Footer) :
    setTexts fs (fs.map Footer.text) = fs.map fun f => f.setText f.text := by
  induction fs with
  | nil => rfl
  | cons f fs ih => rw [List.map_cons, setTexts, ih, List.map_cons]

/-- The reports about the texts of footers, one for each footer with violations. -/
def textReports (e : Engine) (files : Option ChangedFiles) (fs : List Footer) : List Report :=
  let found := (e.forPart .footer).evaluate (fs.map Footer.text) false files
  (Violations.sortIndexes (found.errors.indexes ++ found.warnings.indexes)).filterMap
    (footerReport? fs found)

theorem footerReport?_congr {fs gs : List Footer} (h : fs.map Footer.token = gs.map Footer.token) :
    footerReport? fs = footerReport? gs := by
  funext found index
  rw [footerReport?, footerReport?, ← List.getElem?_map, h, List.getElem?_map]

theorem processTexts_false (fs : List Footer) :
    processTexts ⟨false, files⟩ e fs =
      (fs.map fun f => { f with text := e.writeBack .footer Text.strip f.text },
        textReports e files fs) := by
  rw [processTexts, Run.evaluate?, textReports]
  by_cases hempty : (e.forPart .footer).isEmpty = true
  · have hrules : (e.forPart .footer).rules = [] := by simpa [Engine.isEmpty] using hempty
    have hnone : (e.forPart .footer).evaluate (fs.map Footer.text) false files =
        ⟨fs.map Footer.text, .none, .none⟩ := by rw [Engine.evaluate, hrules]; rfl
    rw [if_pos hempty, hnone]
    simp only [Engine.writeBack, if_pos hempty]
    exact congrArg₂ Prod.mk (List.map_id' fs).symm rfl
  · rw [if_neg hempty]
    simp only [Engine.output_evaluate_false, setTexts_texts, Engine.writeBack, if_neg hempty]
    have htokens : (fs.map fun f => f.setText f.text).map Footer.token = fs.map Footer.token :=
      List.map_map
    rw [footerReport?_congr htokens]
    rfl

theorem retoken_tokens (fs : List Footer) :
    retoken fs (fs.map Footer.token) =
      fs.map fun f => { f with token := Footer.respell f.token } := by
  rw [retoken, if_pos (List.length_map _)]
  induction fs with
  | nil => rfl
  | cons f fs ih =>
    rw [List.map_cons, List.zipWith_cons_cons, Footer.setToken_token, ih, List.map_cons]

theorem processTokens_false (fs : List Footer) :
    processTokens ⟨false, files⟩ e fs =
      (fs.map fun f => { f with token := e.writeBack .trailer Footer.respell f.token },
        e.checkReports files .trailer (fs.map Footer.token)) := by
  rw [processTokens, Run.evaluate?]
  by_cases hempty : (e.forPart .trailer).isEmpty = true
  · rw [if_pos hempty, Engine.checkReports_of_isEmpty hempty]
    simp only [Engine.writeBack, if_pos hempty]
    exact congrArg₂ Prod.mk (List.map_id' fs).symm rfl
  · rw [if_neg hempty]
    simp only [Engine.output_evaluate_false, retoken_tokens, Engine.writeBack, if_neg hempty]
    rfl

theorem processLines_false (fs : List Footer) :
    processLines ⟨false, files⟩ e fs =
      (fs, e.checkReports files .footers (fs.map Footer.plain)) := by
  rw [processLines, Run.evaluate?]
  by_cases hempty : (e.forPart .footers).isEmpty = true
  · rw [if_pos hempty, Engine.checkReports_of_isEmpty hempty]
  · rw [if_neg hempty]
    simp only [Engine.output_evaluate_false, if_true]
    rfl

/-- The reports of checking the parts one after the other. The header and the footers are looked
at as lines once their fields have been written back. -/
def checkedReports (m : Message) (e : Engine) (files : Option ChangedFiles) : List Report :=
  ([.nameSpace, .type, .scope, .subject].flatMap fun part =>
      e.checkReports files part (m.values part)) ++
    e.checkReports files .header ((m.writtenBack e).values .header) ++
    e.checkReports files .body (m.values .body) ++
    textReports e files m.footers ++
    e.checkReports files .trailer (m.values .trailer) ++
    e.checkReports files .footers ((m.writtenBack e).values .footers)

/-- Processing without repairs never fails; it writes the message back and reports on it. -/
theorem process_false (m : Message) : m.process e false files =
    .ok ⟨m.writtenBack e, (m.checkedReports e files).all (·.errors.isEmpty),
      m.checkedReports e files⟩ := by
  unfold process
  simp only [processFields_false, processHeader_false, processBody_false, processTexts_false,
    processTokens_false, processLines_false]
  have hfooters : (m.footers.map fun f =>
      { f with text := e.writeBack .footer Text.strip f.text }).map (fun f =>
        { f with token := e.writeBack .trailer Footer.respell f.token }) =
      m.footers.map (writtenFooter e) := List.map_map
  have htokens : (m.footers.map fun f =>
      { f with text := e.writeBack .footer Text.strip f.text }).map Footer.token =
      m.trailers := List.map_map
  rw [hfooters, htokens]
  rfl

end Stages

end Message

end CommitStandard
