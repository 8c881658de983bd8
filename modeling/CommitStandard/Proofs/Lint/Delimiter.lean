import Mathlib.Tactic
import CommitStandard.Lint.Basic
import CommitStandard.Proofs.Message.PaintedLine
import CommitStandard.Proofs.Message.Warnings
import CommitStandard.Proofs.Settings.Refusals

/-!
# Scopes and the empty delimiter

There is one thing that linting cannot do: split scopes at the empty delimiter. A line with scopes
in it cannot be read under that delimiter, be it the first line of a message or a repaired header
line (`Linter.exists_lint_iff`). A settings file can set the empty delimiter, with a text of
blanks and control characters. Under the settings of a file, there is a linter exactly if their
rules can be resolved (`Settings.IsResolvable`), and it lints every message exactly if the file
does not set the empty delimiter (`Settings.exists_lint_iff_of_ofBytes`).
-/
namespace CommitStandard

/-! ## Messages -/

namespace Message

variable {run : Run} {engine : Engine}

/-- The header line that the rules rewrite, if they do. -/
def rewrittenLine? (run : Run) (engine : Engine) (h : Header) : Option Text :=
  (run.evaluate? engine .header [h.render]).bind fun e =>
    if e.firstValue = h.render then none else some e.firstValue

theorem rewrittenLine?_false (engine : Engine) (files : Option ChangedFiles) (h : Header) :
    rewrittenLine? ⟨false, files⟩ engine h = none := by
  unfold rewrittenLine? Run.evaluate?
  dsimp only
  split
  · rfl
  · rw [Option.bind_some, Evaluation.firstValue, Engine.output_evaluate_false]
    exact if_pos rfl

theorem exists_processHeader_iff {h : Header} :
    (∃ stage, processHeader run engine h = .ok stage) ↔
      (h.options.scopeDelimiter = [] →
        ∀ line ∈ rewrittenLine? run engine h, Header.namesScopes line = false) := by
  unfold processHeader rewrittenLine?
  cases run.evaluate? engine .header [h.render] with
  | none => exact iff_of_true ⟨_, rfl⟩ fun _ _ hline => nomatch hline
  | some e =>
    rw [Option.bind_some]
    dsimp only
    by_cases hsame : e.firstValue = h.render
    · rw [if_pos hsame, if_pos hsame]
      exact iff_of_true ⟨_, rfl⟩ fun _ _ hline => nomatch hline
    · rw [if_neg hsame, if_neg hsame]
      simp only [Option.mem_some_iff, forall_eq']
      rw [← Header.exists_parse_iff]
      exact exists_map_eq_ok_iff

theorem exists_process_iff {m : Message} {attemptFix : Bool} {files : Option ChangedFiles} :
    (∃ p, m.process engine attemptFix files = .ok p) ↔
      (m.header.options.scopeDelimiter = [] →
        ∀ line ∈ rewrittenLine? ⟨attemptFix, files⟩ engine
            (checkedHeader ⟨attemptFix, files⟩ engine m), Header.namesScopes line = false) := by
  have hprocess := @process_eq_map ⟨attemptFix, files⟩ engine m
  have hoptions : (checkedHeader ⟨attemptFix, files⟩ engine m).options = m.header.options :=
    (options_styles_processFields _ _).1
  rw [← hoptions, ← exists_processHeader_iff, hprocess]
  exact exists_map_eq_ok_iff

theorem exists_parse_iff {options : HeaderOptions} {s : Text} :
    (∃ m, parse options s = .ok m) ↔
      (options.scopeDelimiter = [] → Header.namesScopes (headerLine s) = false) := by
  rw [← Header.exists_parse_iff]
  unfold parse
  cases Header.parse options (headerLine s) with
  | error fault => exact iff_of_false (fun ⟨_, h⟩ => nomatch h) fun ⟨_, h⟩ => nomatch h
  | ok header => exact iff_of_true ⟨_, rfl⟩ ⟨_, rfl⟩

theorem options_of_parse {options : HeaderOptions} {s : Text} {m : Message}
    (h : parse options s = .ok m) : m.header.options = options := by
  obtain ⟨header, body, footers, hheader, rfl, -⟩ := eq_make_of_parse h
  obtain ⟨ns, type, scopes, subject, breaking, rfl, -⟩ := Header.eq_make_of_parse hheader
  rfl

end Message

/-! ## Linting -/

namespace Linter

/-- The lines that are read as headers when a message is linted: its first line, and the header
line that the rules make of it, if they rewrite it. -/
def headerLines (l : Linter) (s : Submission) (attemptFix : Bool) : List Text :=
  Message.headerLine (stripComments s.text) ::
    match Message.parse l.options (stripComments s.text) with
    | .ok m =>
      let run : Message.Run := ⟨attemptFix, s.files⟩
      (Message.rewrittenLine? run l.engine (Message.checkedHeader run l.engine m)).toList
    | .error _ => []

theorem headerLines_false (l : Linter) (s : Submission) :
    l.headerLines s false = [Message.headerLine (stripComments s.text)] := by
  unfold headerLines
  split
  · dsimp only
    rw [Message.rewrittenLine?_false]
    rfl
  · rfl

/-- Linting goes wrong exactly where a line with scopes is read and scopes are to be split at
nothing. -/
theorem exists_lint_iff {l : Linter} {s : Submission} {attemptFix : Bool} :
    (∃ r, l.lint s attemptFix = .ok r) ↔
      (l.options.scopeDelimiter = [] →
        ∀ line ∈ l.headerLines s attemptFix, Header.namesScopes line = false) := by
  have hfirst := @Message.exists_parse_iff l.options (stripComments s.text)
  cases hm : Message.parse l.options (stripComments s.text) with
  | error fault =>
    refine iff_of_false ?_ fun h => ?_
    · rintro ⟨r, hr⟩
      unfold lint at hr
      rw [hm] at hr
      cases hr
    · obtain ⟨m, h⟩ := hfirst.mpr fun hempty => h hempty _ List.mem_cons_self
      cases hm.symm.trans h
  | ok m =>
    have hprocess := @Message.exists_process_iff l.engine m attemptFix s.files
    rw [Message.options_of_parse hm] at hprocess
    have hlint : (∃ r, l.lint s attemptFix = .ok r) ↔
        ∃ p, m.process l.engine attemptFix s.files = .ok p := by
      unfold lint
      rw [hm]
      exact exists_map_eq_ok_iff
    have hline := hfirst.mp ⟨m, hm⟩
    rw [hlint, hprocess, headerLines, hm]
    simp only [List.forall_mem_cons, Option.mem_toList]
    exact forall_congr' fun hempty => (and_iff_right (hline hempty)).symm

end Linter

namespace Settings

variable {p : Platform} {env : Environment} {content : ByteArray} {loaded : Loaded}

/-! ## Resolving rules -/

/-- The patterns in the list of namespaces; there are none if the list has another shape. -/
def namespacePatterns (rules : Entries) : List Value :=
  match Entries.get? namespaceEnum rules with
  | some (.list (_ :: _ :: .list patterns :: _)) => patterns
  | _ => []

/-- Nothing keeps rules from being resolved: they are not too deep to be copied, and every pattern
in the list of namespaces can be shown as text and, if it stands for directories, searched for. -/
structure IsResolvable (p : Platform) (search : Search) (rules : Entries) : Prop where
  depth : Value.entryDepth rules ≤ p.copyDepth
  pattern : ∀ v ∈ namespacePatterns rules, ∃ pattern, v.display p.displayDepth = .ok pattern ∧
    (isExpandable pattern → ∃ names, search (baseOf pattern) = .ok names)

theorem namespacePatterns_withScopeRule (s : Settings) (rules : Entries) :
    namespacePatterns (s.withScopeRule rules) = namespacePatterns rules := by
  have hget : Entries.get? namespaceEnum (s.withScopeRule rules) =
      Entries.get? namespaceEnum rules := by
    unfold withScopeRule
    split
    · rfl
    · have hother : (namespaceEnum == scopeAllowMultiple) = false := by decide
      simp only [Entries.get?, List.lookup_append, List.lookup_cons, hother, List.lookup_nil,
        Option.or_none]
  rw [namespacePatterns, hget, namespacePatterns]

theorem mapM_namespacePatterns (room : Nat) (rules : Entries) :
    (namespacePatterns rules).mapM (Value.display room) = do
      return (← namespaceEntry? room rules).elim [] NamespaceEntry.patterns := by
  unfold namespaceEntry? namespacePatterns
  cases Entries.get? namespaceEnum rules with
  | none => rfl
  | some v =>
    cases v with
    | list items =>
      match items with
      | [] | [_] | [_, _] => rfl
      | _ :: _ :: third :: _ =>
        cases third with
        | list patterns =>
          dsimp only
          cases patterns.mapM (Value.display room) <;> rfl
        | _ => rfl
    | _ => rfl

theorem searched_eq (room : Nat) (rules : Entries) :
    searched room rules = ((namespacePatterns rules).mapM (Value.display room)).map
      fun patterns => (patterns.filter isExpandable).map baseOf := by
  rw [mapM_namespacePatterns, searched]
  cases namespaceEntry? room rules with
  | error e => rfl
  | ok found => cases found <;> rfl

theorem exists_expandNamespaces_iff {room : Nat} {listing : Listing} {rules : Entries} :
    (∃ expanded, expandNamespaces room listing rules = .ok expanded) ↔
      ∃ patterns, (namespacePatterns rules).mapM (Value.display room) = .ok patterns := by
  rw [mapM_namespacePatterns, expandNamespaces]
  cases namespaceEntry? room rules with
  | error e => exact iff_of_false (fun ⟨_, h⟩ => nomatch h) fun ⟨_, h⟩ => nomatch h
  | ok found => cases found <;> exact iff_of_true ⟨_, rfl⟩ ⟨_, rfl⟩

theorem exists_listingOf_iff {search : Search} {bases : List Text} :
    (∃ listing, listingOf search bases = .ok listing) ↔
      ∀ base ∈ bases, ∃ names, search base = .ok names := by
  have hsearch : ∀ base, (∃ found, (do return (base, ← search base) : Except Text _) = .ok found) ↔
      ∃ names, search base = .ok names := fun base => exists_map_eq_ok_iff
  simp only [← hsearch, ← exists_mapM_iff]
  exact exists_map_eq_ok_iff

theorem forall_searched_iff {show? : Value → Except DisplayFault Text} {vs : List Value}
    {patterns : List Text} (h : vs.mapM show? = .ok patterns) {search : Search} :
    (∀ base ∈ (patterns.filter isExpandable).map baseOf, ∃ names, search base = .ok names) ↔
      ∀ v ∈ vs, ∀ pattern, show? v = .ok pattern → isExpandable pattern →
        ∃ names, search (baseOf pattern) = .ok names := by
  simp only [List.forall_mem_map, List.mem_filter, mem_iff_of_mapM h]
  grind

/-- Rules can be resolved exactly if nothing keeps them from it. -/
theorem exists_resolve_iff {s : Settings} {search : Search} :
    (∃ rules, s.resolve p search = .ok rules) ↔ IsResolvable p search s.rules := by
  have hpatterns := namespacePatterns_withScopeRule s s.rules
  unfold resolve
  by_cases hdepth : p.copyDepth < Value.entryDepth s.rules
  · simp only [if_pos hdepth]
    exact iff_of_false (fun ⟨_, h⟩ => nomatch h) fun h => absurd h.depth (by omega)
  simp only [if_neg hdepth]
  constructor
  · rintro ⟨rules, h⟩
    obtain ⟨bases, hbases, h⟩ := bind_eq_ok_iff.mp h
    obtain ⟨listing, hlisting, -⟩ := bind_eq_ok_iff.mp h
    rw [mapError_eq_ok_iff] at hbases hlisting
    rw [searched_eq, hpatterns] at hbases
    obtain ⟨patterns, hshown⟩ := exists_map_eq_ok_iff.mp ⟨bases, hbases⟩
    rw [hshown] at hbases
    obtain rfl := Except.ok.inj hbases
    refine ⟨by omega, fun v hv => ?_⟩
    obtain ⟨pattern, hpattern⟩ := exists_mapM_iff.mp ⟨patterns, hshown⟩ v hv
    have hsearch := (forall_searched_iff hshown).mp (exists_listingOf_iff.mp ⟨listing, hlisting⟩)
    exact ⟨pattern, hpattern, hsearch v hv pattern hpattern⟩
  · rintro ⟨-, h⟩
    obtain ⟨patterns, hshown⟩ := exists_mapM_iff.mpr fun v hv =>
      (h v hv).imp fun _ hpattern => hpattern.1
    obtain ⟨listing, hlisting⟩ : ∃ listing,
        listingOf search ((patterns.filter isExpandable).map baseOf) = .ok listing := by
      refine exists_listingOf_iff.mpr ((forall_searched_iff hshown).mpr fun v hv pattern hv' => ?_)
      obtain ⟨pattern', hdisplay, hfound⟩ := h v hv
      cases hv'.symm.trans hdisplay
      exact hfound
    obtain ⟨rules, hrules⟩ := exists_expandNamespaces_iff.mpr ⟨patterns, hpatterns ▸ hshown⟩
    refine ⟨rules, ?_⟩
    rw [searched_eq, hpatterns, hshown]
    exact bind_eq_ok_iff.mpr ⟨_, rfl, bind_eq_ok_iff.mpr
      ⟨listing, mapError_eq_ok_iff.mpr hlisting, mapError_eq_ok_iff.mpr hrules⟩⟩

/-! ## Linting under settings -/

/-- The linter under settings, if their rules can be resolved. -/
def linter (p : Platform) (s : Settings) (search : Search) (paint : Option (Text → Text)) :
    Except ResolveFault Linter :=
  (s.resolve p search).map fun rules => ⟨.ofRules p.coercions rules, s.headerOptions, paint⟩

/-- The file is a configuration in which scopes are joined by nothing, or by blanks and control
characters. -/
def SetsEmptyDelimiter (p : Platform) (content : ByteArray) : Prop :=
  ∃ es t, HasSection p content es ∧ IsConfiguration p es ∧
    Entries.get? Field.scopeDelimiter.name es = some (.text t) ∧ sanitize t = []

theorem scopeDelimiter_of_ofValues? (henv : env.HasNoSettings) {fields : Entries} {s : Settings}
    (h : ofValues? p.coercions env fields = some s) :
    Entries.get? Field.scopeDelimiter.name fields = none ∧ s.scopeDelimiter = [','] ∨
      Entries.get? Field.scopeDelimiter.name fields = some (.text s.scopeDelimiter) := by
  simp only [ofValues?, Option.bind_eq_bind, Option.bind_eq_some_iff, readField_eq_some_iff henv]
    at h
  obtain ⟨rules, -, multiple, -, delimiter, hdelimiter, emoji, -, always, -, logFile, -, ⟨⟩⟩ := h
  obtain ⟨hnone, rfl⟩ | ⟨v, hv, hread⟩ := hdelimiter
  · exact .inl ⟨hnone, rfl⟩
  · rw [text?_eq_some_iff.1 hread] at hv
    exact .inr hv

theorem scopeDelimiter_of_isNamed (henv : env.HasNoSettings) {es : Entries}
    (h : IsNamed p env es loaded) : loaded.settings.scopeDelimiter = [] ↔
      ∃ t, Entries.get? Field.scopeDelimiter.name es = some (.text t) ∧ sanitize t = [] := by
  obtain ⟨fields, hkeeps, hvalues⟩ := h.settings
  have hkept : Entries.get? Field.scopeDelimiter.name fields =
      (Entries.get? Field.scopeDelimiter.name es).map sanitizeValue := by
    rw [hkeeps, Option.map_eq_bind]
    rfl
  obtain ⟨hnone, hdefault⟩ | hnamed := scopeDelimiter_of_ofValues? henv hvalues
  · rw [hdefault]
    refine iff_of_false (by simp) ?_
    rintro ⟨t, ht, -⟩
    rw [hkept, ht] at hnone
    cases hnone
  · rw [hkept, Option.map_eq_some_iff] at hnamed
    obtain ⟨v, hv, hsanitized⟩ := hnamed
    rw [hv]
    cases v with
    | text t =>
      rw [← Value.text.inj hsanitized]
      simp
    | _ => cases hsanitized

/-- Scopes are to be split at nothing exactly if the file says so. -/
theorem scopeDelimiter_eq_nil_iff (henv : env.HasNoSettings)
    (h : ofBytes p env content = .ok loaded) :
    loaded.settings.scopeDelimiter = [] ↔ SetsEmptyDelimiter p content := by
  have hfallback (hloaded : IsFallback p env loaded) : loaded.settings.scopeDelimiter ≠ [] := by
    have hsettings := hloaded.settings
    rw [ofValues?_nil, ofEnvironment_of_hasNoSettings _ henv, Option.some.injEq] at hsettings
    rw [← hsettings]
    decide
  obtain ⟨hmalformed, hloaded⟩ | ⟨es, hsection, hnamed, hother⟩ := outcome_of_ofBytes h
  · refine iff_of_false (hfallback hloaded) ?_
    rintro ⟨es, t, hsection, -⟩
    exact hsection.not_isMalformed hmalformed
  · by_cases hconfiguration : IsConfiguration p es
    · rw [scopeDelimiter_of_isNamed henv (hnamed hconfiguration)]
      constructor
      · rintro ⟨t, ht, hempty⟩
        exact ⟨es, t, hsection, hconfiguration, ht, hempty⟩
      · rintro ⟨es', t, hsection', -, ht, hempty⟩
        rw [hsection'.unique hsection] at ht
        exact ⟨t, ht, hempty⟩
    · refine iff_of_false (hfallback (hother hconfiguration)) ?_
      rintro ⟨es', t, hsection', hconfiguration', -⟩
      rw [hsection'.unique hsection] at hconfiguration'
      exact hconfiguration hconfiguration'

theorem options_of_linter {s : Settings} {search : Search} {paint : Option (Text → Text)}
    {l : Linter} (h : s.linter p search paint = .ok l) : l.options = s.headerOptions := by
  unfold linter at h
  cases hrules : s.resolve p search with
  | error e =>
    rw [hrules] at h
    cases h
  | ok rules =>
    rw [hrules] at h
    cases h
    rfl

/-- Under the settings that are loaded from a file there is a linter exactly if their rules can be
resolved. It lints every message, with and without repairs, unless the file sets the empty
delimiter. Then it lints exactly the messages that need no scopes to be read, neither in the first
line, which is the only one without repairs, nor in a repaired header line. -/
theorem exists_lint_iff_of_ofBytes (henv : env.HasNoSettings)
    (hload : ofBytes p env content = .ok loaded) (search : Search)
    (paint : Option (Text → Text)) :
    ((∃ l, loaded.settings.linter p search paint = .ok l) ↔
      IsResolvable p search loaded.settings.rules) ∧
    ∀ l, loaded.settings.linter p search paint = .ok l → ∀ s : Submission,
      (∀ attemptFix, (∃ r, l.lint s attemptFix = .ok r) ↔
        (SetsEmptyDelimiter p content →
          ∀ line ∈ l.headerLines s attemptFix, Header.namesScopes line = false)) ∧
      ((∃ r, l.lint s false = .ok r) ↔
        (SetsEmptyDelimiter p content →
          Header.namesScopes (Message.headerLine (stripComments s.text)) = false)) := by
  refine ⟨exists_map_eq_ok_iff.trans exists_resolve_iff, fun l hl s => ?_⟩
  have hlint : ∀ attemptFix, (∃ r, l.lint s attemptFix = .ok r) ↔
      (SetsEmptyDelimiter p content →
        ∀ line ∈ l.headerLines s attemptFix, Header.namesScopes line = false) := by
    intro attemptFix
    rw [Linter.exists_lint_iff, options_of_linter hl, ← scopeDelimiter_eq_nil_iff henv hload]
    rfl
  refine ⟨hlint, ?_⟩
  rw [hlint, Linter.headerLines_false]
  simp only [List.mem_singleton, forall_eq]

/-- A file with a blank for the delimiter. -/
def blankFile : String := "[commitional]\nscope_delimiter = \" \"\n"

def undelimited : Settings := { standard with scopeDelimiter := [] }

theorem ofBytes_blankFile : ofBytes .standard [] blankFile.toUTF8 = .ok ⟨undelimited, []⟩ := by
  rw [ofBytes, fromUTF8?_toUTF8]
  decide +kernel

/-- The linter under the settings in the file, in a repository without directories. -/
def undelimitedLinter : Linter :=
  ⟨.ofRules .lax (undelimited.withScopeRule defaultRules), undelimited.headerOptions, none⟩

theorem linter_undelimited :
    undelimited.linter .standard (fun _ => .ok []) none = .ok undelimitedLinter := rfl

theorem exists_lint_iff_of_ofBytes_blankFile :
    Environment.HasNoSettings [] ∧
      ofBytes .standard [] blankFile.toUTF8 = .ok ⟨undelimited, []⟩ ∧
      SetsEmptyDelimiter .standard blankFile.toUTF8 ∧
      undelimited.linter .standard (fun _ => .ok []) none = .ok undelimitedLinter ∧
      ∃ r, undelimitedLinter.lint ⟨[], "feat: add parser.".toList, none⟩ true = .ok r := by
  have henv : Environment.HasNoSettings [] := fun _ he => nomatch he
  have hunscoped : ∀ line ∈ undelimitedLinter.headerLines
      ⟨[], "feat: add parser.".toList, none⟩ true, Header.namesScopes line = false := by
    decide +kernel
  have hlint := (exists_lint_iff_of_ofBytes henv ofBytes_blankFile (fun _ => .ok []) none).2 _
    linter_undelimited ⟨[], "feat: add parser.".toList, none⟩
  exact ⟨henv, ofBytes_blankFile, (scopeDelimiter_eq_nil_iff henv ofBytes_blankFile).mp rfl,
    linter_undelimited, (hlint.1 true).mpr fun _ => hunscoped⟩

/-- A message with a scope cannot be linted under an empty delimiter. -/
theorem lint_blankFile :
    ofBytes .standard [] blankFile.toUTF8 = .ok ⟨undelimited, []⟩ ∧
      undelimited.linter .standard (fun _ => .ok []) none = .ok undelimitedLinter ∧
      undelimitedLinter.lint ⟨[], "feat(api): Add parser".toList, none⟩ false =
        .error .emptyDelimiter :=
  ⟨ofBytes_blankFile, linter_undelimited, rfl⟩

end Settings

end CommitStandard
