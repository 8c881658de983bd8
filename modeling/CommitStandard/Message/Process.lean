import CommitStandard.Engine.Basic
import CommitStandard.Message.Parse

/-!
# Checking and repairing messages

The rules of an engine are applied part by part: the fields of the header, the header as a line,
the body, the texts of the footers, their tokens, and the footers as lines. Each stage hands its
repaired part to the next and reports what is left of the violations. The main definition is
`Message.process`.
-/
namespace CommitStandard

structure Report where
  type : Text
  /-- The token of the footer that the report is about, if it is about one. -/
  filter : Option Text
  errors : List Text
  warnings : List Text
deriving DecidableEq, Repr

structure Processed where
  message : Message
  valid : Bool
  reports : List Report

namespace Report

/-- A report of messages, if there are any. -/
def ofMessages? (part : Part) (filter : Option Text) (errors warnings : List Text) :
    Option Report :=
  if errors.isEmpty && warnings.isEmpty then none else some ⟨part.name, filter, errors, warnings⟩

/-- The report of an evaluation of a part, if it found anything. -/
def ofEvaluation? (part : Part) (e : Evaluation) : Option Report :=
  ofMessages? part none e.errors.messages e.warnings.messages

/-- Adds errors to a report, or makes one of them. -/
def addErrors (part : Part) (report : Option Report) : List Text → Option Report
  | [] => report
  | errors =>
    let r := report.getD ⟨part.name, none, [], []⟩
    some { r with errors := r.errors ++ errors }

end Report

namespace Message

/-- The values of a field that rules look at. -/
def fieldValues (h : Header) : HeaderField → List Text
  | .nameSpace => [h.nameSpace]
  | .type => [h.type]
  | .scope => h.scopes
  | .subject => [h.subject]

/-- Puts repaired values into a field. -/
def setField (h : Header) (field : HeaderField) (e : Evaluation) : Header :=
  match field with
  | .nameSpace => h.setNameSpace e.firstValue
  | .type => h.setType e.firstValue
  | .scope => h.setScopes e.output
  | .subject => h.setSubject e.firstValue

/-- Whether repairs are made and which files have changed. -/
structure Run where
  attemptFix : Bool
  files : Option ChangedFiles

/-- Evaluates the rules of a part, if it has any. -/
def Run.evaluate? (run : Run) (engine : Engine) (part : Part) (values : List Text) :
    Option Evaluation :=
  let rules := engine.forPart part
  if rules.isEmpty then none else some (rules.evaluate values run.attemptFix run.files)

def processField (run : Run) (engine : Engine) (h : Header) (field : HeaderField) :
    Header × List Report :=
  match run.evaluate? engine field.part (fieldValues h field) with
  | none => (h, [])
  | some e => (setField h field e, (Report.ofEvaluation? field.part e).toList)

def processFields (run : Run) (engine : Engine) (h : Header) :
    List HeaderField → Header × List Report
  | [] => (h, [])
  | field :: fields =>
    let (h, reports) := processField run engine h field
    let (h, more) := processFields run engine h fields
    (h, reports ++ more)

/-- The stage of the header line. A repaired line is read again and keeps its paint. -/
def processHeader (run : Run) (engine : Engine) (h : Header) :
    Except ScopeError (Header × List Report) := do
  match run.evaluate? engine .header [h.render] with
  | none => return (h, [])
  | some e =>
    let reports := (Report.ofEvaluation? .header e).toList
    if e.firstValue = h.render then return (h, reports)
    else
      let reread ← Header.parse h.options e.firstValue
      return ({ reread with styles := h.styles }, reports)

def processBody (run : Run) (engine : Engine) (body : Text) : Text × List Report :=
  match run.evaluate? engine .body [body] with
  | none => (body, [])
  | some e => (e.firstValue, (Report.ofEvaluation? .body e).toList)

/-- Sets the texts of footers, as far as there are texts. -/
def setTexts : List Footer → List Text → List Footer
  | f :: fs, t :: ts => f.setText t :: setTexts fs ts
  | fs, _ => fs

def footerReport? (footers : List Footer) (e : Evaluation) (index : Nat) : Option Report :=
  Report.ofMessages? .footer (footers[index]?.map Footer.token)
    (e.errors.messagesAt index) (e.warnings.messagesAt index)

/-- The stage of the footer texts. Every footer has a report of its own. -/
def processTexts (run : Run) (engine : Engine) (footers : List Footer) :
    List Footer × List Report :=
  match run.evaluate? engine .footer (footers.map Footer.text) with
  | none => (footers, [])
  | some e =>
    let footers := setTexts footers e.output
    (footers,
      (Violations.sortIndexes (e.errors.indexes ++ e.warnings.indexes)).filterMap
        (footerReport? footers e))

/-- Keeps the footers whose tokens are wanted, each as often as it is wanted, and gives the tokens
that are still wanted after that. -/
def keepWanted (wanted : List Text) : List Footer → List Footer × List Text
  | [] => ([], wanted)
  | f :: fs =>
    if wanted.contains f.token then
      let (kept, left) := keepWanted (wanted.erase f.token) fs
      (f :: kept, left)
    else keepWanted wanted fs

/-- Footers without text for the tokens that are still wanted. -/
def newFooters (wanted : List Text) : List Text → List Footer
  | [] => []
  | token :: tokens =>
    let t := Footer.normalizeToken token
    if wanted.contains t then .make token [] :: newFooters (wanted.erase t) tokens
    else newFooters wanted tokens

/-- Footers for repaired tokens. As many tokens as footers rename them in place; otherwise the
footers that are still wanted stay and new ones follow. -/
def retoken (footers : List Footer) (tokens : List Text) : List Footer :=
  if tokens.length = footers.length then List.zipWith Footer.setToken footers tokens
  else
    let (kept, left) := keepWanted (tokens.map Footer.normalizeToken) footers
    kept ++ newFooters left tokens

def processTokens (run : Run) (engine : Engine) (footers : List Footer) :
    List Footer × List Report :=
  match run.evaluate? engine .trailer (footers.map Footer.token) with
  | none => (footers, [])
  | some e => (retoken footers e.output, (Report.ofEvaluation? .trailer e).toList)

/-- The lines that are footers, and the wording of why the others are not. -/
def reread : List Text → List Footer × List Text
  | [] => ([], [])
  | line :: rest =>
    let (footers, errors) := reread rest
    match Footer.parse line with
    | .ok f => (f :: footers, errors)
    | .error e => (footers, e.message :: errors)

/-- The stage of the footer lines. Repaired lines are read again. -/
def processLines (run : Run) (engine : Engine) (footers : List Footer) :
    List Footer × List Report :=
  match run.evaluate? engine .footers (footers.map Footer.plain) with
  | none => (footers, [])
  | some e =>
    let report := Report.ofEvaluation? .footers e
    if e.output = footers.map Footer.plain then (footers, report.toList)
    else
      let (footers, errors) := reread e.output
      (footers, (Report.addErrors .footers report errors).toList)

/-- Applies the rules to every part of a message. The message is valid if no error is left. -/
def process (m : Message) (engine : Engine) (attemptFix : Bool) (files : Option ChangedFiles) :
    Except ScopeError Processed := do
  let run : Run := ⟨attemptFix, files⟩
  let (header, fieldReports) := processFields run engine m.header HeaderField.all
  let (header, headerReports) ← processHeader run engine header
  let (body, bodyReports) := processBody run engine m.body
  let (footers, textReports) := processTexts run engine m.footers
  let (footers, tokenReports) := processTokens run engine footers
  let (footers, lineReports) := processLines run engine footers
  let reports := fieldReports ++ headerReports ++ bodyReports ++ textReports ++ tokenReports ++
    lineReports
  return ⟨{ m with header, body, footers }, reports.all (·.errors.isEmpty), reports⟩

end Message

end CommitStandard
