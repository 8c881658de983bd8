import Mathlib.Tactic
import CommitStandard.Proofs.Message.Data
import CommitStandard.Proofs.Message.Painting
import CommitStandard.Proofs.Message.Stages

/-!
# Processing painted messages

All stages of processing but one look at what a message says and leave its paint alone: the
fields, the body and the footers come out the same with paint and without it
(`processFields_unstyled`, `processFooters_unstyled`). The rules about the header line look at
the line as it is shown, so that a painted message is processed like the plain one exactly if
they make the same of both lines (`seen_process_restyleAll`).
-/
namespace CommitStandard

/-- The reports about other parts than the header line. -/
def Processed.otherReports (p : Processed) : List Report :=
  p.reports.filter fun report => report.type ≠ Part.header.name

namespace Message

variable {run : Run} {engine : Engine}

/-! ## Stages that see no paint -/

theorem processField_unstyled (h : Header) (field : HeaderField) :
    processField run engine h.unstyled field =
      ((processField run engine h field).1.unstyled, (processField run engine h field).2) := by
  have hvalues : fieldValues h.unstyled field = fieldValues h field := by cases field <;> rfl
  unfold processField
  rw [hvalues]
  cases run.evaluate? engine field.part (fieldValues h field) with
  | none => rfl
  | some e => cases field <;> rfl

theorem processFields_unstyled (h : Header) (fields : List HeaderField) :
    processFields run engine h.unstyled fields =
      ((processFields run engine h fields).1.unstyled, (processFields run engine h fields).2) := by
  induction fields generalizing h with
  | nil => rfl
  | cons field fields ih =>
    rw [processFields, processField_unstyled]
    dsimp only
    rw [ih]
    rfl

theorem setTexts_unstyled (fs : List Footer) (texts : List Text) :
    setTexts (fs.map Footer.unstyled) texts = (setTexts fs texts).map Footer.unstyled := by
  induction fs generalizing texts with
  | nil => rfl
  | cons f fs ih =>
    cases texts with
    | nil => rfl
    | cons t ts =>
      rw [List.map_cons, setTexts, setTexts, List.map_cons, ih, Footer.unstyled_setText]

theorem processTexts_unstyled (fs : List Footer) :
    processTexts run engine (fs.map Footer.unstyled) =
      ((processTexts run engine fs).1.map Footer.unstyled, (processTexts run engine fs).2) := by
  have htexts : (fs.map Footer.unstyled).map Footer.text = fs.map Footer.text := List.map_map
  unfold processTexts
  rw [htexts]
  cases run.evaluate? engine .footer (fs.map Footer.text) with
  | none => rfl
  | some e =>
    have htokens : ((setTexts fs e.output).map Footer.unstyled).map Footer.token =
        (setTexts fs e.output).map Footer.token := List.map_map
    dsimp only
    rw [setTexts_unstyled, footerReport?_congr htokens]

theorem keepWanted_unstyled (wanted : List Text) (fs : List Footer) :
    keepWanted wanted (fs.map Footer.unstyled) =
      ((keepWanted wanted fs).1.map Footer.unstyled, (keepWanted wanted fs).2) := by
  induction fs generalizing wanted with
  | nil => rfl
  | cons f fs ih =>
    rw [List.map_cons, keepWanted, keepWanted, show f.unstyled.token = f.token from rfl, ih, ih]
    split <;> rfl

theorem style_of_mem_newFooters {wanted tokens : List Text} {f : Footer}
    (hf : f ∈ newFooters wanted tokens) : f.style = .plain := by
  induction tokens generalizing wanted with
  | nil => cases hf
  | cons token tokens ih =>
    rw [newFooters] at hf
    split at hf
    · obtain rfl | hf := List.mem_cons.mp hf
      · rfl
      · exact ih hf
    · exact ih hf

theorem setToken_unstyled (f : Footer) (token : Text) :
    f.unstyled.setToken token = (f.setToken token).unstyled := by
  unfold Footer.setToken
  split <;> rfl

theorem retoken_unstyled (fs : List Footer) (tokens : List Text) :
    retoken (fs.map Footer.unstyled) tokens = (retoken fs tokens).map Footer.unstyled := by
  unfold retoken
  rw [List.length_map]
  split
  · rw [List.zipWith_map_left, List.map_zipWith]
    congr 1
    funext f token
    exact setToken_unstyled f token
  · rw [keepWanted_unstyled]
    dsimp only
    rw [List.map_append, Footer.map_unstyled_eq_self fun f hf => style_of_mem_newFooters hf]

theorem processTokens_unstyled (fs : List Footer) :
    processTokens run engine (fs.map Footer.unstyled) =
      ((processTokens run engine fs).1.map Footer.unstyled, (processTokens run engine fs).2) := by
  have htokens : (fs.map Footer.unstyled).map Footer.token = fs.map Footer.token := List.map_map
  unfold processTokens
  rw [htokens]
  cases run.evaluate? engine .trailer (fs.map Footer.token) with
  | none => rfl
  | some e =>
    dsimp only
    rw [retoken_unstyled]

theorem style_of_mem_reread {lines : List Text} {f : Footer} (hf : f ∈ (reread lines).1) :
    f.style = .plain := by
  induction lines with
  | nil => cases hf
  | cons line lines ih =>
    rw [reread] at hf
    cases hparse : Footer.parse line with
    | error e =>
      rw [hparse] at hf
      exact ih hf
    | ok g =>
      rw [hparse] at hf
      obtain rfl | hf := List.mem_cons.mp hf
      · exact Footer.style_of_parse hparse
      · exact ih hf

theorem map_plain_unstyled (fs : List Footer) :
    (fs.map Footer.unstyled).map Footer.plain = fs.map Footer.plain := List.map_map

theorem processLines_unstyled (fs : List Footer) :
    processLines run engine (fs.map Footer.unstyled) =
      ((processLines run engine fs).1.map Footer.unstyled, (processLines run engine fs).2) := by
  unfold processLines
  rw [map_plain_unstyled]
  cases run.evaluate? engine .footers (fs.map Footer.plain) with
  | none => rfl
  | some e =>
    dsimp only
    split
    · rfl
    · dsimp only
      rw [Footer.map_unstyled_eq_self fun f hf => style_of_mem_reread hf]

/-- The stages of the footers, one after the other. -/
def processFooters (run : Run) (engine : Engine) (fs : List Footer) : List Footer × List Report :=
  let texts := processTexts run engine fs
  let tokens := processTokens run engine texts.1
  let lines := processLines run engine tokens.1
  (lines.1, texts.2 ++ tokens.2 ++ lines.2)

theorem processFooters_unstyled (fs : List Footer) :
    processFooters run engine (fs.map Footer.unstyled) =
      ((processFooters run engine fs).1.map Footer.unstyled, (processFooters run engine fs).2) := by
  unfold processFooters
  simp only [processTexts_unstyled, processTokens_unstyled, processLines_unstyled]

/-! ## The header line -/

/-- The header when its line is looked at, its fields being processed. -/
def checkedHeader (run : Run) (engine : Engine) (m : Message) : Header :=
  (processFields run engine m.header HeaderField.all).1

/-- What the rules about the header line make of a line that a header is shown as: the header
line without paint, and their reports. -/
def lineOutcome (run : Run) (engine : Engine) (h : Header) (line : Text) :
    Except ScopeError (Text × List Report) :=
  match run.evaluate? engine .header [line] with
  | none => .ok (h.line, [])
  | some e =>
    let reports := (Report.ofEvaluation? .header e).toList
    if e.firstValue = line then .ok (h.line, reports)
    else (Header.parse h.options e.firstValue).map fun reread => (reread.line, reports)

theorem processHeader_map_line (h : Header) :
    (processHeader run engine h).map (fun stage => (stage.1.line, stage.2)) =
      lineOutcome run engine h h.render := by
  unfold processHeader lineOutcome
  cases run.evaluate? engine .header [h.render] with
  | none => rfl
  | some e =>
    dsimp only
    split
    · rfl
    · cases Header.parse h.options e.firstValue <;> rfl

/-- The outcome for a line is that of the unstyled header. -/
theorem lineOutcome_unstyled (h : Header) :
    lineOutcome run engine h.unstyled = lineOutcome run engine h := rfl

/-! ## Whole runs -/

/-- What comes below the header of a processed message, and the reports that do not depend on
the header line: those about the fields and those about what is below. -/
structure Rest where
  below : List Text
  fields : List Report
  others : List Report

/-- What a run makes of a message apart from its header line. -/
def rest (run : Run) (engine : Engine) (m : Message) : Rest :=
  let body := processBody run engine m.body
  let footers := processFooters run engine m.footers
  ⟨(if body.1.isEmpty then [] else [body.1]) ++ footers.1.map Footer.plain,
    (processFields run engine m.header HeaderField.all).2, body.2 ++ footers.2⟩

theorem rest_unstyled (m : Message) : rest run engine m.unstyled = rest run engine m := by
  have hfooters : processFooters run engine m.unstyled.footers =
      ((processFooters run engine m.footers).1.map Footer.unstyled,
        (processFooters run engine m.footers).2) := processFooters_unstyled m.footers
  have hfields : processFields run engine m.unstyled.header HeaderField.all =
      ((processFields run engine m.header HeaderField.all).1.unstyled,
        (processFields run engine m.header HeaderField.all).2) :=
    processFields_unstyled m.header HeaderField.all
  simp only [rest, hfooters, hfields, map_plain_unstyled]
  rfl

/-- The processed message, given the stage of its header line. -/
def finished (run : Run) (engine : Engine) (m : Message) (stage : Header × List Report) :
    Processed :=
  let reports := (rest run engine m).fields ++ stage.2 ++ (rest run engine m).others
  ⟨{ m with
      header := stage.1
      body := (processBody run engine m.body).1
      footers := (processFooters run engine m.footers).1 },
    reports.all (·.errors.isEmpty), reports⟩

theorem process_eq_map (m : Message) :
    m.process engine run.attemptFix run.files =
      (processHeader run engine (checkedHeader run engine m)).map (finished run engine m) := by
  unfold process checkedHeader
  cases hstage : processHeader run engine (processFields run engine m.header HeaderField.all).1 with
  | error e =>
    simp only [hstage]
    rfl
  | ok stage =>
    simp only [hstage, Except.map, finished, rest, processFooters, List.append_assoc]
    rfl

/-- What is seen of a processed message when its paint is taken off: its written form, whether it
is valid, and the reports. -/
def seen (p : Except ScopeError Processed) : Except ScopeError (Text × Bool × List Report) :=
  p.map fun r => (r.message.unpainted.render, r.valid, r.reports)

theorem render_unpainted_below (m : Message) :
    m.unpainted.render = Text.join "\n\n".toList (m.header.line :: m.below) := by
  have hbelow : m.unstyled.below = m.below := by
    rw [below, below, unstyled, map_plain_unstyled]
  have hfooters : ∀ f ∈ m.unstyled.footers, f.style = .plain := by
    intro f hf
    obtain ⟨g, -, rfl⟩ := List.mem_map.mp hf
    rfl
  rw [render_unpainted_unstyled, render,
    paragraphs_of_unpainted m.isHidden_unstyled.header rfl hfooters, hbelow]
  rfl

/-- What is seen in the end, given what the rules about the header line make of it. -/
def Rest.assemble (r : Rest) (stage : Text × List Report) : Text × Bool × List Report :=
  let reports := r.fields ++ stage.2 ++ r.others
  (Text.join "\n\n".toList (stage.1 :: r.below), reports.all (·.errors.isEmpty), reports)

/-- Nothing of the header line is lost in the end. -/
theorem Rest.assemble_injective (r : Rest) : Function.Injective r.assemble := by
  rintro ⟨line, reports⟩ ⟨line', reports'⟩ h
  simp only [assemble, Prod.mk.injEq, List.append_cancel_right_eq,
    List.append_cancel_left_eq] at h
  obtain ⟨hrender, -, rfl⟩ := h
  by_cases hbelow : r.below = []
  · rw [hbelow] at hrender
    rw [show line = line' from hrender]
  · rw [Text.join_cons _ _ hbelow, Text.join_cons _ _ hbelow, List.append_cancel_right_eq,
      List.append_cancel_right_eq] at hrender
    rw [hrender]

/-- A faultless function of outcomes loses nothing if it loses no result. -/
theorem map_injective {ε α β : Type} {f : α → β} (hf : Function.Injective f) :
    Function.Injective (Except.map f : Except ε α → Except ε β) := by
  rintro (e | a) (e' | b) h
  · rw [Except.error.inj h]
  · cases h
  · cases h
  · rw [hf (Except.ok.inj h)]

/-- What is seen of a processed message depends on its paint at the rules about the header line
only. -/
theorem seen_process (m : Message) :
    seen (m.process engine run.attemptFix run.files) =
      (lineOutcome run engine (checkedHeader run engine m) (checkedHeader run engine m).render).map
        (rest run engine m).assemble := by
  rw [← processHeader_map_line, process_eq_map]
  cases processHeader run engine (checkedHeader run engine m) with
  | error e => rfl
  | ok stage =>
    simp only [Except.map, seen, render_unpainted_below]
    rfl

/-! ## Restylings -/

def restyleAll (m : Message) (ss : List Restyling) : Message := ss.foldl Restyling.apply m

theorem unstyled_restyleAll (m : Message) (ss : List Restyling) :
    (restyleAll m ss).unstyled = m.unstyled := by
  induction ss generalizing m with
  | nil => rfl
  | cons s ss ih => rw [restyleAll, List.foldl_cons, ← restyleAll, ih, Restyling.unstyled_apply]

theorem checkedHeader_unstyled (m : Message) :
    checkedHeader run engine m.unstyled = (checkedHeader run engine m).unstyled := by
  rw [checkedHeader, checkedHeader, unstyled, processFields_unstyled]

/-- The stages of the fields leave the options and the paint of a header as they are. -/
theorem options_styles_processFields (h : Header) (fields : List HeaderField) :
    (processFields run engine h fields).1.options = h.options ∧
      (processFields run engine h fields).1.styles = h.styles := by
  induction fields generalizing h with
  | nil => exact ⟨rfl, rfl⟩
  | cons field fields ih =>
    have hfield : (processField run engine h field).1.options = h.options ∧
        (processField run engine h field).1.styles = h.styles := by
      rw [processField]
      cases run.evaluate? engine field.part (fieldValues h field) with
      | none => exact ⟨rfl, rfl⟩
      | some e => cases field <;> exact ⟨rfl, rfl⟩
    obtain ⟨hoptions, hstyles⟩ := ih (processField run engine h field).1
    exact ⟨hoptions.trans hfield.1, hstyles.trans hfield.2⟩

theorem render_congr {h k : Header} (hsame : h.unstyled = k.unstyled)
    (hstyles : ∀ field t, (h.styles field).apply t = (k.styles field).apply t) :
    h.render = k.render := by
  obtain ⟨nameSpace, type, scopes, subject, breaking, options, styles⟩ := h
  obtain ⟨nameSpace', type', scopes', subject', breaking', options', styles'⟩ := k
  simp only [Header.unstyled, Header.mk.injEq, and_true] at hsame
  obtain ⟨rfl, rfl, rfl, rfl, rfl, rfl⟩ := hsame
  simp only at hstyles
  simp only [Header.render, Header.painted, Header.scope, Header.separator, hstyles]
  rfl

theorem type_of_mem_processHeader {h : Header} {stage : Header × List Report}
    (hstage : processHeader run engine h = .ok stage) :
    ∀ report ∈ stage.2, report.type = Part.header.name := by
  have hreport : ∀ e : Evaluation, ∀ report ∈ (Report.ofEvaluation? .header e).toList,
      report.type = Part.header.name := by
    intro e report hmem
    unfold Report.ofEvaluation? Report.ofMessages? at hmem
    split at hmem
    · cases hmem
    · rw [List.mem_singleton.mp hmem]
  unfold processHeader at hstage
  split at hstage
  · cases hstage
    simp
  · rename_i e _
    dsimp only at hstage
    split at hstage
    · cases hstage
      exact hreport e
    · cases hparse : Header.parse h.options e.firstValue with
      | error fault =>
        rw [hparse] at hstage
        cases hstage
      | ok reread =>
        rw [hparse] at hstage
        cases hstage
        exact hreport e

theorem below_of_process {m : Message} {p : Processed}
    (hp : m.process engine run.attemptFix run.files = .ok p) :
    p.message.below = (rest run engine m).below ∧
      p.otherReports = ((rest run engine m).fields ++ (rest run engine m).others).filter
        fun report => report.type ≠ Part.header.name := by
  rw [process_eq_map] at hp
  cases hstage : processHeader run engine (checkedHeader run engine m) with
  | error e =>
    rw [hstage] at hp
    cases hp
  | ok stage =>
    rw [hstage] at hp
    cases hp
    have hline : stage.2.filter (fun report => report.type ≠ Part.header.name) = [] := by
      refine List.filter_eq_nil_iff.mpr fun report hmem => ?_
      simpa using type_of_mem_processHeader hstage report hmem
    refine ⟨rfl, ?_⟩
    rw [Processed.otherReports, finished, List.filter_append, List.filter_append, hline,
      List.append_nil, List.filter_append]

/-- Paint can be seen by no rule but those about the header line. A message after restylings is
processed like the message before exactly if these make the same of both lines: so if there are
none, and if the header is painted as before. What comes below the header and the other reports
are the same in any case. -/
theorem seen_process_restyleAll (m : Message) (ss : List Restyling) (engine : Engine) (run : Run) :
    (seen ((restyleAll m ss).process engine run.attemptFix run.files) =
        seen (m.process engine run.attemptFix run.files) ↔
      lineOutcome run engine (checkedHeader run engine m)
          (checkedHeader run engine (restyleAll m ss)).render =
        lineOutcome run engine (checkedHeader run engine m)
          (checkedHeader run engine m).render) ∧
    ((engine.forPart .header).rules = [] ∨
        (∀ field t, ((restyleAll m ss).header.styles field).apply t =
          (m.header.styles field).apply t) →
      seen ((restyleAll m ss).process engine run.attemptFix run.files) =
        seen (m.process engine run.attemptFix run.files)) ∧
    ∀ p q, (restyleAll m ss).process engine run.attemptFix run.files = .ok p →
      m.process engine run.attemptFix run.files = .ok q →
        p.message.below = q.message.below ∧ p.otherReports = q.otherReports := by
  have hchecked : (checkedHeader run engine (restyleAll m ss)).unstyled =
      (checkedHeader run engine m).unstyled := by
    rw [← checkedHeader_unstyled, unstyled_restyleAll, checkedHeader_unstyled]
  have houtcome : lineOutcome run engine (checkedHeader run engine (restyleAll m ss)) =
      lineOutcome run engine (checkedHeader run engine m) := by
    rw [← lineOutcome_unstyled, hchecked, lineOutcome_unstyled]
  have hrest : rest run engine (restyleAll m ss) = rest run engine m := by
    rw [← rest_unstyled, unstyled_restyleAll, rest_unstyled]
  have hsame : seen ((restyleAll m ss).process engine run.attemptFix run.files) =
        seen (m.process engine run.attemptFix run.files) ↔
      lineOutcome run engine (checkedHeader run engine m)
          (checkedHeader run engine (restyleAll m ss)).render =
        lineOutcome run engine (checkedHeader run engine m)
          (checkedHeader run engine m).render := by
    rw [seen_process, seen_process, houtcome, hrest]
    exact (map_injective (rest run engine m).assemble_injective).eq_iff
  refine ⟨hsame, fun h => hsame.mpr ?_, fun p q hp hq => ?_⟩
  · obtain hnone | hstyles := h
    · rw [lineOutcome, lineOutcome, evaluate?_eq_none hnone, evaluate?_eq_none hnone]
    · have hpaint : ∀ field t, ((checkedHeader run engine (restyleAll m ss)).styles field).apply t =
          ((checkedHeader run engine m).styles field).apply t := by
        intro field t
        rw [checkedHeader, checkedHeader, (options_styles_processFields _ _).2,
          (options_styles_processFields _ _).2, hstyles]
      rw [render_congr hchecked hpaint]
  · obtain ⟨hbelow, hreports⟩ := below_of_process hp
    obtain ⟨hbelow', hreports'⟩ := below_of_process hq
    rw [hrest] at hbelow hreports
    exact ⟨hbelow.trans hbelow'.symm, hreports.trans hreports'.symm⟩

/-- A message of a header line only. -/
def shortMessage : Message := make (.make .standard [] "feat".toList [] "Add x".toList false) [] []

/-- Restylings that show the subject between stars. -/
def starredSubject : List Restyling :=
  [.setPaint (fun t => '*' :: (t ++ ['*'])) (some Part.subject.name) none,
   .showPaint true (some Part.subject.name) none]

/-- At most so many characters in a part. -/
def atMost (part : Part) (n : Int) : List (Text × Entry) :=
  [(part.name ++ "-max-length".toList, .given (.list [.int 2, .text "always".toList, .int n]))]

theorem seen_process_restyleAll_starredSubject :
    ((Engine.ofEntries .lax (atMost .subject 3)).forPart .header).rules = [] ∧
      (restyleAll shortMessage starredSubject).render = "feat: *Add x*".toList ∧
      seen ((restyleAll shortMessage starredSubject).process
          (.ofEntries .lax (atMost .subject 3)) true none) =
        seen (shortMessage.process (.ofEntries .lax (atMost .subject 3)) true none) ∧
      (∃ p q, (restyleAll shortMessage starredSubject).process
          (.ofEntries .lax (atMost .header 11)) true none = .ok p ∧
        shortMessage.process (.ofEntries .lax (atMost .header 11)) true none = .ok q ∧
        p.message.below = q.message.below ∧ p.otherReports = q.otherReports) := by
  have hnone : ((Engine.ofEntries .lax (atMost .subject 3)).forPart .header).rules = [] := by decide
  obtain ⟨-, hsame, -⟩ := seen_process_restyleAll shortMessage starredSubject
    (.ofEntries .lax (atMost .subject 3)) ⟨true, none⟩
  obtain ⟨-, -, hrest⟩ := seen_process_restyleAll shortMessage starredSubject
    (.ofEntries .lax (atMost .header 11)) ⟨true, none⟩
  exact ⟨hnone, by decide, hsame (.inl hnone), _, _, rfl, rfl, hrest _ _ rfl rfl⟩

/-- A header line that is short enough is cut with its paint, which stays in the text; without
repairs it counts as too long. -/
theorem seen_process_cut :
    seen (shortMessage.process (.ofEntries .lax (atMost .header 11)) true none) =
        .ok ("feat: Add x".toList, true, []) ∧
      seen ((restyleAll shortMessage starredSubject).process
          (.ofEntries .lax (atMost .header 11)) true none) =
        .ok ("feat: *Add".toList, true, []) ∧
      seen (shortMessage.process (.ofEntries .lax (atMost .header 11)) false none) =
        .ok ("feat: Add x".toList, true, []) ∧
      seen ((restyleAll shortMessage starredSubject).process
          (.ofEntries .lax (atMost .header 11)) false none) =
        .ok ("feat: Add x".toList, false, [⟨"header".toList, none,
          ["[header:0] The header must always be 11 characters or fewer".toList], []⟩]) := by
  decide +kernel

end Message

end CommitStandard
