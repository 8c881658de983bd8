import CommitStandard.Engine.Basic
import CommitStandard.Message.Data

/-!
# The standard in words

An engine is described in Markdown: which properties a message must, may and must not have, with
a template that shows them, and then every rule as a sentence under the heading of its part. There
is no description if a rule cannot be worded.
-/
namespace CommitStandard.Engine

def demandedTrailers (e : Engine) : List Text :=
  e.trailerDemands.flatMap fun rule => rule.value.texts?.getD []

/-- The clause that lists properties after an opening, if there are any. -/
def clause? (opening : Text) (list : List Text → Text) (properties : List Part) : Option Text :=
  if properties.isEmpty then none else some (opening ++ list (properties.map Part.name))

def propertySentence (p : AllowedProperties) : Text :=
  let clauses := [clause? "must have a ".toList Text.listAnd p.required,
    clause? "may have a ".toList Text.listOr p.optional,
    clause? "must not contain a ".toList Text.listOr p.forbidden].filterMap id
  match clauses with
  | [] => []
  | first :: rest => Text.listAnd (("Commit messages ".toList ++ first) :: rest)

def placeholder (p : AllowedProperties) (property : Part) : Text :=
  if p.optional.contains property then "[optional ".toList ++ property.name ++ [']']
  else if p.required.contains property then '<' :: (property.name ++ ['>'])
  else []

/-- The footer lines of the template: one for each demanded trailer, or one for any, if footers
are required; and a note if they are optional. -/
def footerPlaceholders (e : Engine) (p : AllowedProperties) : List Text :=
  (if p.required.contains .footers then
    match e.demandedTrailers with
    | [] => ["<token>: <footer>".toList]
    | trailers => trailers.map fun t => '<' :: (t ++ ">: <footer>".toList)
  else []) ++
  (if p.optional.contains .footers then ["[optional: footer(s)]".toList] else [])

/-- A message made of placeholders. -/
def template (e : Engine) : Message :=
  let p := e.allowedProperties
  let scope := placeholder p .scope
  .ofDraft .standard
    { nameSpace := placeholder p .nameSpace
      type := placeholder p .type
      scopes := if scope.isEmpty then [] else [scope]
      subject := placeholder p .subject
      body := placeholder p .body
      footers := (e.footerPlaceholders p).map Message.looseFooter }

/-- The sentence on the properties of a message, and the template. -/
def commitStructure (e : Engine) : Text :=
  Text.join ['\n']
    [propertySentence e.allowedProperties, "\x60\x60\x60txt".toList, e.template.render,
     "\x60\x60\x60".toList]

def describedParts : List Part :=
  [.nameSpace, .type, .scope, .subject, .header, .body, .footer, .footers, .trailer]

/-- The demand on every subject that no rule checks. -/
def moodDemand : Text :=
  "The subject must be written in imperative mood (Fix, not Fixed / Fixes etc.)".toList

def item (s : Text) : Text := "- ".toList ++ s

/-- The heading of a part and its rules as sentences. The subject always has a heading. -/
def partRules (rules : List Rule) (part : Part) : Except Fault (List Text) := do
  let sentences ← (rules.filter (·.part == part.name)).mapM fun r => do
    return item (Text.capitalize (← r.describe))
  let heading := "### ".toList ++ Text.capitalize part.name
  if part = .subject then return heading :: (sentences ++ [item moodDemand])
  else if sentences.isEmpty then return []
  else return heading :: sentences

/-- Every rule that is not about emptiness, as a list by parts. -/
def generalRules (e : Engine) : Except Fault Text := do
  let rules := (e.rules.map Prod.snd).filter fun r => r.kind != .empty
  return Text.join ['\n'] (← describedParts.mapM (partRules rules)).flatten

def describe (e : Engine) : Except Fault Text := do
  return Text.join ['\n']
    ["## Commit message standard".toList, e.commitStructure, [], "## General Rules".toList,
     ← e.generalRules]

end CommitStandard.Engine
