import CommitStandard.CommandLine.Session
import CommitStandard.Engine.Description

/-!
# Showing and creating settings from the command line

The description of the standard that the rules stand for, the settings in force, and a settings
file with default values.
-/
namespace CommitStandard.Showing

variable {m : Type → Type} [Monad m]

def describe (p : Platform) (fs : FileSystem m) (env : Environment) (repository : Repository) :
    Session m Unit := do
  match ← Session.onFiles (repository.load p fs env) with
  | .error e => Session.abort e.message
  | .ok loaded =>
    Session.putNotices loaded.notices
    match ← Session.onFiles (repository.rules p fs loaded.settings) with
    | .error e => Session.abort e.message
    | .ok rules =>
      match (Engine.ofRules p.coercions rules).describe with
      | .error e => Session.abort e.message
      | .ok description => Session.put description

/-- Makes a settings file with default values, unless there is one. -/
def create (p : Platform) (fs : FileSystem m) (env : Environment) (repository : Repository) :
    Session m Unit := do
  if ← Session.onFiles (repository.hasSettings fs) then
    Session.printMarked
      (Markup.styled "yellow" "Config file already exists:".toList ++
        ' ' :: repository.settingsPath)
  else
    let some saved := (Settings.ofEnvironment p.coercions env).save? p | throw 1
    Session.putNotices saved.notices
    if let some document := saved.document then
      Session.onFiles (fs.write repository.settingsPath document)
    Session.printMarked
      (Markup.styled "green" "Created new config file with default values:".toList ++
        ' ' :: repository.settingsPath)

/-- A row of the table of settings. -/
def row (name value source : Text) : Text :=
  Text.padTo 24 name ++ ' ' :: (Text.padTo 20 value ++ ' ' :: Text.padTo 10 source)

/-- The names of the settings other than rules, and their values as they are shown. -/
def scalars (s : Settings) : List (Settings.Field × Text) :=
  let flag := fun b : Bool => if b then "True".toList else "False".toList
  [(.enableMultipleScopes, flag s.enableMultipleScopes),
   (.scopeDelimiter, s.scopeDelimiter),
   (.breakingEmoji, s.breakingEmoji),
   (.alwaysLog, flag s.alwaysLog),
   (.logFile, match s.logFile with
     | some (c :: cs) => c :: cs
     | _ => "None".toList)]

/-- Where settings come from, as marked-up text. -/
def origin (repository : Repository) (fromFile : Bool) : Text :=
  Markup.styled "dim" <|
    if fromFile then "Config file: ".toList ++ repository.settingsPath
    else "Using default values (no config file found)".toList

/-- The table of settings, and the heading of the rules. -/
def settingRows (fromFile : Bool) (s : Settings) : List Text :=
  let source := if fromFile then "config".toList else "default".toList
  [[], row "Setting".toList "Value".toList "Source".toList, List.replicate 54 '-'] ++
  ((scalars s).map fun (field, shown) => row field.name shown source) ++
  [[], "Rules:".toList]

/-- What stands below the rules. -/
def hint : List Text :=
  [[], "To modify these settings, create or edit ".toList ++ settingsFile ++
    " in your repository root".toList]

/-- Lists the settings, up to a rule that cannot be shown. -/
def list (p : Platform) (fs : FileSystem m) (env : Environment) (repository : Repository) :
    Session m Unit := do
  match ← Session.onFiles (repository.load p fs env) with
  | .error _ => throw 1
  | .ok loaded =>
    Session.putNotices loaded.notices
    let fromFile ← Session.onFiles (repository.hasSettings fs)
    [[], "Current Configuration Settings:".toList].forM Session.print
    Session.printMarked (origin repository fromFile)
    (settingRows fromFile loaded.settings).forM Session.print
    match ← Session.onFiles (repository.rules p fs loaded.settings) with
    | .error _ => throw 1
    | .ok rules =>
      rules.forM fun (id, v) => do
        match v.display p.displayDepth with
        | .ok shown => Session.print (Text.padTo 24 id ++ ' ' :: shown)
        | .error _ => throw 1
    hint.forM Session.print

def config (p : Platform) (fs : FileSystem m) (env : Environment) (repository : Repository)
    (a : Arguments) : Session m Unit :=
  if a.has .init then create p fs env repository
  else if a.has .list then list p fs env repository
  else
    Session.printMarked
      (Markup.styled "green" "Config file location:".toList ++ ' ' :: repository.settingsPath)

end CommitStandard.Showing
