import CommitStandard.Lint.Terminal
import CommitStandard.Message.Process

/-!
# Linting

A linter reads a commit message as an editor leaves it, without comment lines, and processes it
with the rules of an engine. Parts with errors can be painted. The main definition is
`Linter.lint`. What was found is shown on a console, a message only if something was found in it,
and in a log file, which has a line for every message and every violation.
-/
namespace CommitStandard

/-- A line below which an editor shows what is not part of the message. -/
def isScissors (line : Text) : Bool :=
  match line with
  | '#' :: ' ' :: rest =>
    let left := rest.takeWhile (· = '-')
    match rest.dropWhile (· = '-') with
    | ' ' :: '>' :: '8' :: ' ' :: right =>
      !left.isEmpty && !right.isEmpty && right.all (· = '-')
    | _ => false
  | _ => false

/-- The lines before the first scissors line, and an empty line for the end of the last of them.
Without such a line all lines are kept. -/
def linesAboveScissors (lines : List Text) : List Text :=
  if lines.any isScissors then lines.takeWhile (fun l => !isScissors l) ++ [[]] else lines

/-- The message without comment lines and without what is below a scissors line. -/
def stripComments (s : Text) : Text :=
  Text.join ['\n'] ((linesAboveScissors (Text.lines s)).filter fun l => !(['#'].isPrefixOf l))

structure LintResult where
  /-- Where the message is from. -/
  source : Text
  message : Message
  valid : Bool
  reports : List Report

namespace LintResult

def errors (r : LintResult) : List Text := r.reports.flatMap Report.errors

def warnings (r : LintResult) : List Text := r.reports.flatMap Report.warnings

end LintResult

/-- The title of a report: its part, and the token of the footer that it is about. -/
def Report.title (r : Report) : Text :=
  match r.filter with
  | some (c :: cs) => r.type ++ " (".toList ++ (c :: cs) ++ [')']
  | _ => r.type

/-- The title and the messages of a report, one a line, unless there is no message. -/
def Report.summary? (messages : Report → List Text) (r : Report) : Option Text :=
  if (messages r).isEmpty then none
  else some (Text.join ['\n'] (r.title :: (messages r).map ("- ".toList ++ ·)))

/-- The messages of reports by part. -/
def summarize (messages : Report → List Text) (reports : List Report) : Text :=
  Text.join "\n\n".toList (reports.filterMap (Report.summary? messages))

namespace LintResult

def errorSummary (r : LintResult) : Text := summarize Report.errors r.reports

def warningSummary (r : LintResult) : Text := summarize Report.warnings r.reports

end LintResult

structure Linter where
  engine : Engine
  options : HeaderOptions
  /-- How parts with errors are painted. -/
  paint : Option (Text → Text)

structure Submission where
  source : Text
  text : Text
  files : Option ChangedFiles

namespace Linter

/-- Paints the parts of a message that have errors. -/
def paintErrors (paint : Text → Text) (m : Message) (reports : List Report) : Message :=
  (reports.filter fun r => !r.errors.isEmpty).foldl
    (fun m r => m.showPaint true (some r.type) r.filter) (m.setPaint paint none none)

def lint (l : Linter) (s : Submission) (attemptFix : Bool) : Except ScopeError LintResult := do
  let m ← Message.parse l.options (stripComments s.text)
  let p ← m.process l.engine attemptFix s.files
  let painted := match l.paint with
    | some paint => paintErrors paint p.message p.reports
    | none => p.message
  return ⟨s.source, painted, p.valid, p.reports⟩

/-- Lints messages one after the other. -/
def lintAll (l : Linter) (ss : List Submission) (attemptFix : Bool) :
    Except ScopeError (List LintResult) :=
  ss.mapM fun s => l.lint s attemptFix

end Linter

namespace Log

/-- The lines of a summary, unless it is empty. -/
def summaryLines (s : Text) : List Text := if s.isEmpty then [] else Terminal.printed s

/-- The lines on the console about one message. -/
def consoleLines (r : LintResult) : List Text :=
  if r.reports.isEmpty then []
  else
    "---".toList :: (Terminal.printedDecoded r.message.render ++ [] ::
      (summaryLines r.errorSummary ++ summaryLines r.warningSummary))

def failures (rs : List LintResult) : Nat := (rs.filter fun r => !r.valid).length

def consoleTotal (rs : List LintResult) : Text :=
  if failures rs = 0 then
    Text.ofNat rs.length ++ " commit message(s) passed linting".toList
  else
    Text.ofNat (failures rs) ++ " of ".toList ++ Text.ofNat rs.length ++
      " commit message(s) failed linting".toList

def fileEntries (r : LintResult) : List Text :=
  let header := Terminal.decoded r.message.header.render
  let status := if r.valid then "Passed ".toList else "Failed ".toList
  (status ++ r.source ++ ": ".toList ++ header) ::
    (r.errors.map ("  error: ".toList ++ ·) ++ r.warnings.map ("  warning: ".toList ++ ·))

def fileTotal (rs : List LintResult) : Text :=
  "Linted ".toList ++ Text.ofNat rs.length ++ " commit message(s), ".toList ++
    Text.ofNat (failures rs) ++ " failed".toList

end Log

end CommitStandard
