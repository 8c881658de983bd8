import CommitStandard.Platform
import CommitStandard.Header
import CommitStandard.Text.Words

/-!
# Settings

The settings of a repository: the rules, how scopes and breaking changes are written, and where
linting is logged. `Settings.ofFields` makes settings of named values, with the environment
filling in what is not named. Texts from outside are freed of control characters, and log files
have to stay inside the repository.
-/
namespace CommitStandard

/-- The settings of a repository. -/
structure Settings where
  /-- The entries of the rules under their identifiers, in the order in which they run. -/
  rules : Entries
  enableMultipleScopes : Bool
  scopeDelimiter : Text
  breakingEmoji : Text
  alwaysLog : Bool
  logFile : Option Text

abbrev Environment := List (Text × Text)

/-- Where the linter logs to. -/
inductive LogTarget where
  | nowhere
  /-- A file named after the present time. -/
  | timed
  | file (path : Text)
deriving DecidableEq, Repr

/-- A remark about a setting that is not followed. -/
inductive Notice where
  /-- A log file outside the repository is not used. -/
  | unsafeLogFile (shown : Text)
  /-- A log file outside the repository is not saved. -/
  | unsafeUnsaved (path : Text)
  /-- The settings file cannot be read as settings. -/
  | unreadable (reason : Text)
  /-- The settings cannot be saved. -/
  | unsavable (reason : Text)
deriving DecidableEq, Repr

def Notice.message : Notice → Text
  | unsafeLogFile shown =>
    "Warning: Unsafe log file path ".toList ++ '\x27' :: (shown ++ "', using default".toList)
  | unsafeUnsaved path =>
    "Warning: Unsafe log file path ".toList ++ '\x27' :: (path ++ "', not saving".toList)
  | unreadable reason => "Warning: Error reading config file: ".toList ++ reason
  | unsavable reason => "Error saving config file: ".toList ++ reason

/-- The name of the settings file in the root of a repository. -/
def settingsFile : Text := ".commitional.toml".toList

/-- The table of the settings file that holds the settings. -/
def settingsSection : Text := "commitional".toList

def commitTypes : List Text :=
  ["feat", "fix", "docs", "style", "refactor", "perf", "test", "build", "ci", "chore"].map
    String.toList

/-- An entry that demands or forbids. -/
def entry (applicability : Applicability) (value : Option Value) : Value :=
  .list ([.int Severity.error.toNat, .text applicability.name] ++ value.toList)

/-- The rules that hold by default. The full stop is removed before the case is looked at. -/
def defaultRules : Entries :=
  [("subject-empty".toList, entry .never none),
   ("subject-full-stop".toList, entry .never (some (.text ['.']))),
   ("subject-case".toList, entry .always (some (.text "sentence-case".toList))),
   ("subject-min-length".toList, entry .always (some (.int 5))),
   ("subject-max-length".toList, entry .always (some (.int 60))),
   ("body-max-line-length".toList, entry .always (some (.int 72))),
   ("type-enum".toList, entry .always (some (.ofTexts commitTypes))),
   ("type-empty".toList, entry .never none)]

namespace Settings

def standard : Settings :=
  ⟨defaultRules, false, HeaderOptions.standard.scopeDelimiter,
   HeaderOptions.standard.breakingEmoji, false, none⟩

/-- How headers are written under the settings. -/
def headerOptions (s : Settings) : HeaderOptions := ⟨s.scopeDelimiter, s.breakingEmoji⟩

/-- Control characters other than tab, line feed and carriage return. -/
def isStray (c : Char) : Bool :=
  c.toNat ≤ 0x08 || c = '\x0b' || c = '\x0c' || (0x0e ≤ c.toNat && c.toNat ≤ 0x1f) ||
    c.toNat == 0x7f

/-- The greatest number of characters of a text setting. -/
def maxTextLength : Nat := 1000

/-- Frees a text of control characters, excess length and the blanks around it. -/
def sanitize (s : Text) : Text :=
  Text.strip ((s.filter fun c => !isStray c).take maxTextLength)

/-- The lower-case letter that a character is taken for where case is overlooked. -/
def folded (c : Char) : Char :=
  if Text.asciiUpper c then Char.ofNat (c.toNat + 32)
  else if c = 'ſ' then 's'
  else if c = 'ı' ∨ c = 'İ' then 'i'
  else c

/-- Directories of the system, in which nothing is logged. -/
def systemDirectories : List Text :=
  ["/etc/", "/var/", "/usr/", "/bin/", "/sbin/"].map String.toList

/-- Whether a path stays inside the repository and names no system directory. -/
def isSafePath (path : Text) : Bool :=
  !path.isEmpty && !Text.contains "..".toList path && !(['/'].isPrefixOf path) && '\\' ∉ path &&
    !systemDirectories.any fun d => Text.contains d (path.map folded)

/-- The text in a field that may be absent. -/
def optionalText? : Value → Option (Option Text)
  | .null => some none
  | .text s => some (some s)
  | _ => none

def table? : Value → Option Entries
  | .table entries => some entries
  | _ => none

inductive Field where
  | rules
  | enableMultipleScopes
  | scopeDelimiter
  | breakingEmoji
  | alwaysLog
  | logFile
deriving DecidableEq, Repr

def Field.name : Field → Text
  | rules => "rules".toList
  | enableMultipleScopes => "enable_multiple_scopes".toList
  | scopeDelimiter => "scope_delimiter".toList
  | breakingEmoji => "breaking_emoji".toList
  | alwaysLog => "always_log".toList
  | logFile => "log_file".toList

/-- The variable of the environment that sets a field, if there is one. -/
def Field.variable? : Field → Option Text
  | rules => none
  | enableMultipleScopes => some "COMMITIONAL_ENABLE_MULTIPLE_SCOPES".toList
  | scopeDelimiter => some "COMMITIONAL_SCOPE_DELIMITER".toList
  | breakingEmoji => some "COMMITIONAL_BREAKING_EMOJI".toList
  | alwaysLog => some "COMMITIONAL_ALWAYS_LOG".toList
  | logFile => some "COMMITIONAL_LOG_FILE".toList

/-- The value that a variable gives to a field: a few words mean that a flag is set, and texts
are sanitized. -/
def Field.ofVariable (field : Field) (s : Text) : Value :=
  match field with
  | rules => .null
  | enableMultipleScopes | alwaysLog =>
    .bool (["true", "1", "yes", "on"].contains (String.ofList (Text.lower s)))
  | scopeDelimiter | breakingEmoji | logFile => .text (sanitize s)

/-- The value of a field: the one named, or else the one from the environment. -/
def fieldValue? (env : Environment) (fields : Entries) (field : Field) : Option Value :=
  (Entries.get? field.name fields).or <| do
    let s ← env.lookup (← field.variable?)
    some (field.ofVariable s)

/-- Reads a field, which has a default if it has no value. -/
def readField {α : Type} (env : Environment) (fields : Entries) (field : Field)
    (read : Value → Option α) (default : α) : Option α :=
  match fieldValue? env fields field with
  | none => some default
  | some v => read v

/-- Settings of named values. There are none if a value has the wrong sort. -/
def ofValues? (c : Coercions) (env : Environment) (fields : Entries) : Option Settings := do
  let rules ← readField env fields .rules table? defaultRules
  let multiple ← readField env fields .enableMultipleScopes c.flag? false
  let delimiter ← readField env fields .scopeDelimiter Value.text? standard.scopeDelimiter
  let emoji ← readField env fields .breakingEmoji Value.text? standard.breakingEmoji
  let always ← readField env fields .alwaysLog c.flag? false
  let logFile ← readField env fields .logFile optionalText? none
  return ⟨rules, multiple, delimiter, emoji, always, logFile⟩

/-- Why named values do not make settings. -/
inductive FieldFault where
  /-- A value has the name that stands for the settings themselves. -/
  | reservedName
  /-- A value has the wrong sort. -/
  | wrongSort
deriving DecidableEq, Repr

/-- The name that stands for the settings themselves. -/
def reservedName : Text := "self".toList

/-- Settings of named values. Names that are no fields are overlooked, but for the reserved one. -/
def ofFields (c : Coercions) (env : Environment) (fields : Entries) :
    Except FieldFault Settings :=
  if Entries.has reservedName fields then .error .reservedName
  else
    match ofValues? c env fields with
    | some s => .ok s
    | none => .error .wrongSort

/-- The settings when nothing but the environment names values. -/
def ofEnvironment (c : Coercions) (env : Environment) : Settings :=
  (ofValues? c env []).getD standard

/-- Where to log to, with a notice if the log file is not safe. -/
def logTarget (s : Settings) : LogTarget × List Notice :=
  if s.alwaysLog then (.timed, [])
  else match s.logFile with
    | some (c :: cs) =>
      if isSafePath (c :: cs) then (.file (c :: cs), []) else (.nowhere, [.unsafeLogFile (c :: cs)])
    | _ => (.nowhere, [])

end Settings

end CommitStandard
