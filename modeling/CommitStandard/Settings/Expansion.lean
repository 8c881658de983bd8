import CommitStandard.Namespace
import CommitStandard.Platform
import CommitStandard.Settings.Basic

/-!
# Rules for the engine

The rules of the settings are completed before an engine is made of them. Whether there may be
several scopes becomes a rule, and directory patterns in the list of namespaces are replaced by
the directories that they stand for, which also gives a rule about the changed files. The main
definition is `Settings.resolve`; it fails if values lie too deep to be copied, a pattern cannot
be shown as text, or a directory cannot be searched.
-/
namespace CommitStandard

/-- The names of the directories in a directory of the repository; there are none in what is no
directory. -/
abbrev Listing := Text → List Text

/-- An attempt to list the directories in a directory, which the system may refuse with a
reason. -/
abbrev Search := Text → Except Text (List Text)

/-- Why rules cannot be resolved. -/
inductive ResolveFault where
  | tooDeep
  | unshown (e : DisplayFault)
  | unsearchable (reason : Text)
deriving DecidableEq, Repr

def ResolveFault.message : ResolveFault → Text
  | tooDeep => depthMessage
  | unshown e => e.message
  | unsearchable reason => reason

namespace Settings

/-- Whether a pattern stands for the directories inside one. -/
def isExpandable (pattern : Text) : Bool :=
  ['/'].isSuffixOf pattern || ['/', '*'].isSuffixOf pattern

/-- The directory whose directories a pattern stands for. -/
def baseOf (pattern : Text) : Text :=
  match pattern.reverse with
  | '*' :: '/' :: rest => rest.reverse
  | '/' :: rest => rest.reverse
  | _ => pattern

/-- The directories that a pattern stands for, in increasing order. -/
def expand (listing : Listing) (pattern : Text) : List Text :=
  let base := baseOf pattern
  ((listing base).map fun name => base ++ '/' :: (name ++ ['/'])).mergeSort Text.le

def directoryName (path : Text) : Text := FilePath.baseName (Text.dropEnd (· = '/') path)

/-- The directories that patterns stand for, and then the patterns that are directories. -/
def expandAll (listing : Listing) (patterns : List Text) : List Text :=
  (patterns.filter isExpandable).flatMap (expand listing) ++
    patterns.filter fun p => !isExpandable p

/-- The identifier of the rule that lists namespaces. -/
def namespaceEnum : Text := "namespace-enum".toList

/-- The identifier of the rule about the namespaces of changed files. -/
def namespaceAlignment : Text := "namespace-alignment".toList

/-- The identifier of the rule about several scopes. -/
def scopeAllowMultiple : Text := "scope-allow-multiple".toList

/-- The entry that lists namespaces. -/
structure NamespaceEntry where
  severity : Value
  applicability : Value
  patterns : List Text

/-- The entry that lists namespaces, if there is one that does. Its patterns are taken as texts,
whatever they are. -/
def namespaceEntry? (room : Nat) (rules : Entries) :
    Except DisplayFault (Option NamespaceEntry) :=
  match Entries.get? namespaceEnum rules with
  | some (.list (severity :: applicability :: .list patterns :: _)) => do
    return some ⟨severity, applicability, ← patterns.mapM (Value.display room)⟩
  | _ => .ok none

/-- Replaces directory patterns in the list of namespaces by the names of the directories and adds
the rule that changed files agree with the namespace. Nothing changes if there is no name. -/
def NamespaceEntry.expand (e : NamespaceEntry) (listing : Listing) (rules : Entries) : Entries :=
  let paths := expandAll listing e.patterns
  let names := (paths.map directoryName).filter fun n => !n.isEmpty
  if names.isEmpty then rules
  else
    let rules :=
      Entries.put namespaceEnum (.list [e.severity, e.applicability, .ofTexts names]) rules
    Entries.put namespaceAlignment (entry .always (some (.ofTexts paths))) rules

def expandNamespaces (room : Nat) (listing : Listing) (rules : Entries) :
    Except DisplayFault Entries := do
  match ← namespaceEntry? room rules with
  | none => return rules
  | some e => return e.expand listing rules

/-- The directories that have to be searched to expand the entry that lists namespaces. -/
def searched (room : Nat) (rules : Entries) : Except DisplayFault (List Text) := do
  match ← namespaceEntry? room rules with
  | none => return []
  | some e => return (e.patterns.filter isExpandable).map baseOf

/-- Searches directories; all others count as empty. -/
def listingOf (search : Search) (bases : List Text) : Except Text Listing := do
  let found ← bases.mapM fun base => do return (base, ← search base)
  return fun base => (found.lookup base).getD []

/-- Adds the rule on several scopes, unless the settings have one. -/
def withScopeRule (s : Settings) (rules : Entries) : Entries :=
  if Entries.has scopeAllowMultiple rules then rules
  else
    rules ++ [(scopeAllowMultiple,
      entry (if s.enableMultipleScopes then .always else .never) (some (.text s.scopeDelimiter)))]

/-- The rules for the engine. -/
def resolve (p : Platform) (s : Settings) (search : Search) : Except ResolveFault Entries := do
  if p.copyDepth < Value.entryDepth s.rules then throw .tooDeep
  let rules := s.withScopeRule s.rules
  let bases ← (searched p.displayDepth rules).mapError .unshown
  let listing ← (listingOf search bases).mapError .unsearchable
  (expandNamespaces p.displayDepth listing rules).mapError .unshown

end Settings

end CommitStandard
