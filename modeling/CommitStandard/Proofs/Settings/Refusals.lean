import Mathlib.Tactic
import CommitStandard.Proofs.Settings.Reloading

/-!
# Which files are loaded

Loading a settings file can end in three ways. A file whose section names values of the right
sorts gives its settings. A document that is not well formed, and a section with a value of the
wrong sort, give the settings of the environment and a notice. A file that is no text or goes
beyond the limits of reading, a section that is neither a table nor a list of pairs, a log file
in which nothing can be looked for, and the name that stands for the settings themselves, give no
settings at all (`ofBytes_outcome`).
-/
namespace CommitStandard

namespace Settings

variable {p : Platform} {c : Coercions} {env : Environment} {es fields : Entries}

/-! ## Sections -/

/-- The key and the value that an item of a list is, if its key is a text. -/
def pair? (item : Value) : Option (Text × Value) :=
  match parts? item with
  | some [.text key, v] => some (key, v)
  | _ => none

/-- The entries of a section, which is a table or a list of pairs. Of two values under the same
key, the later one counts. -/
def sectionEntries? : Value → Option Entries
  | .table es => some es
  | v => do
    let items ← parts? v
    (items.mapM pair?).map fun pairs => pairs.foldl (fun es p => Entries.put p.1 p.2 es) []

theorem hasOtherKeys_of_ofPairs {items : List Value} {index : Nat}
    {content result : SectionContent} (h : ofPairs index content items = .ok result)
    (hkeys : content.hasOtherKeys = true) : result.hasOtherKeys = true := by
  induction items generalizing index content with
  | nil =>
    cases h
    exact hkeys
  | cons item rest ih =>
    unfold ofPairs at h
    split at h
    · cases h
    · obtain ⟨next, hput, h⟩ := bind_eq_ok_iff.mp h
      refine ih h ?_
      unfold SectionContent.put at hput
      split at hput <;> cases hput
      · exact hkeys
      · rfl
    · cases h

/-- Pairs are read exactly if all of them have texts for keys. -/
theorem ofPairs_eq_ok_iff {items : List Value} {index : Nat} {content : SectionContent}
    (hkeys : content.hasOtherKeys = false) :
    ofPairs index content items = .ok ⟨es, false⟩ ↔
      (items.mapM pair?).map
        (fun pairs => pairs.foldl (fun es p => Entries.put p.1 p.2 es) content.entries) =
          some es := by
  induction items generalizing index content with
  | nil =>
    obtain ⟨entries, other⟩ := content
    simp only at hkeys
    simp [ofPairs, hkeys]
  | cons item rest ih =>
    match hparts : parts? item with
    | none => simp [ofPairs, pair?, hparts]
    | some [] | some [_] | some (_ :: _ :: _ :: _) => simp [ofPairs, pair?, hparts]
    | some [key, v] =>
      cases key with
      | text key =>
        have hpair : pair? item = some (key, v) := by rw [pair?, hparts]
        have hstep : ofPairs index content (item :: rest) =
            ofPairs (index + 1) { content with entries := Entries.put key v content.entries }
              rest := by
          rw [ofPairs, hparts]
          rfl
        have hstart : SectionContent.hasOtherKeys
            { content with entries := Entries.put key v content.entries } = false := hkeys
        rw [hstep, ih hstart]
        cases hrest : rest.mapM pair? with
        | none => simp [hpair, hrest]
        | some pairs => simp [hpair, hrest]
      | list _ | table _ => simp [ofPairs, pair?, hparts, SectionContent.put, bind, Except.bind]
      | _ =>
        -- A key that is no text and can be used spoils the section in the end.
        have hpair : pair? item = none := by rw [pair?, hparts]
        simp only [List.mapM_cons, hpair, bind, Option.bind, Option.map_none, reduceCtorEq,
          iff_false]
        intro h
        simp only [ofPairs, hparts] at h
        exact absurd (hasOtherKeys_of_ofPairs h rfl) (by simp)

theorem ofSection_eq_ok_iff {v : Value} :
    ofSection v = .ok ⟨es, false⟩ ↔ sectionEntries? v = some es := by
  cases v with
  | table entries => simp [ofSection, sectionEntries?]
  | list items | text s => simp [ofSection, sectionEntries?, parts?, ofPairs_eq_ok_iff]
  | _ => simp [ofSection, sectionEntries?, parts?]

/-! ## Fields -/

/-- The value that a field keeps of the one that is named: the rules have to be given, texts are
sanitized, and a log file has to be safe. -/
def Field.kept (field : Field) (v : Value) : Option Value :=
  match field with
  | rules => if v.isGiven then some v else none
  | scopeDelimiter | breakingEmoji => some (sanitizeValue v)
  | logFile => some (keptLogFile (sanitizeValue v))
  | enableMultipleScopes | alwaysLog => some v

/-- Whether a value has the sort of a field. -/
def Field.admits (c : Coercions) (field : Field) (v : Value) : Bool :=
  match field with
  | rules => (table? v).isSome
  | enableMultipleScopes | alwaysLog => (c.flag? v).isSome
  | scopeDelimiter | breakingEmoji => v.text?.isSome
  | logFile => (optionalText? v).isSome

theorem admits_ofVariable {field : Field} {name : Text} (h : field.variable? = some name)
    (s : Text) : field.admits c (field.ofVariable s) := by
  cases field with
  | rules => cases h
  | enableMultipleScopes | alwaysLog => exact Option.isSome_of_eq_some (c.flag?_bool _)
  | _ => rfl

/-- A field is read if the named value, if there is one, has its sort. -/
theorem exists_readField {α : Type} (env : Environment) {field : Field} {read : Value → Option α}
    (hread : ∀ v, field.admits c v = (read v).isSome)
    (h : ∀ v, Entries.get? field.name fields = some v → field.admits c v) (default : α) :
    ∃ a, readField env fields field read default = some a := by
  unfold readField
  split
  · exact ⟨default, rfl⟩
  · rename_i v hv
    refine Option.isSome_iff_exists.mp (hread v ▸ ?_)
    obtain hnamed | ⟨-, henv⟩ := Option.or_eq_some_iff.mp hv
    · exact h v hnamed
    · obtain ⟨name, hname, henv⟩ := Option.bind_eq_some_iff.mp henv
      obtain ⟨s, -, ⟨⟩⟩ := Option.bind_eq_some_iff.mp henv
      exact admits_ofVariable hname s

theorem admits_of_readField {α : Type} {field : Field} {read : Value → Option α}
    (hread : ∀ v, field.admits c v = (read v).isSome) {default a : α}
    (h : readField env fields field read default = some a) {v : Value}
    (hv : Entries.get? field.name fields = some v) : field.admits c v := by
  simp only [readField, fieldValue?, hv, Option.some_or] at h
  rw [hread, h]
  rfl

/-- Named values make settings exactly if all of them have the sorts of their fields. -/
theorem isSome_ofValues? : (ofValues? c env fields).isSome ↔
    ∀ field : Field, ∀ v, Entries.get? field.name fields = some v → field.admits c v := by
  constructor
  · intro h field v hv
    obtain ⟨s, hs⟩ := Option.isSome_iff_exists.mp h
    simp only [ofValues?, Option.bind_eq_bind, Option.bind_eq_some_iff] at hs
    obtain ⟨rules, hrules, multiple, hmultiple, delimiter, hdelimiter, emoji, hemoji, always,
      halways, logFile, hlogFile, -⟩ := hs
    cases field with
    | rules => exact admits_of_readField (fun _ => rfl) hrules hv
    | enableMultipleScopes => exact admits_of_readField (fun _ => rfl) hmultiple hv
    | scopeDelimiter => exact admits_of_readField (fun _ => rfl) hdelimiter hv
    | breakingEmoji => exact admits_of_readField (fun _ => rfl) hemoji hv
    | alwaysLog => exact admits_of_readField (fun _ => rfl) halways hv
    | logFile => exact admits_of_readField (fun _ => rfl) hlogFile hv
  · intro h
    obtain ⟨rules, hrules⟩ := exists_readField env (fun _ => rfl) (h .rules) defaultRules
    obtain ⟨multiple, hmultiple⟩ :=
      exists_readField env (fun _ => rfl) (h .enableMultipleScopes) false
    obtain ⟨delimiter, hdelimiter⟩ :=
      exists_readField env (fun _ => rfl) (h .scopeDelimiter) standard.scopeDelimiter
    obtain ⟨emoji, hemoji⟩ :=
      exists_readField env (fun _ => rfl) (h .breakingEmoji) standard.breakingEmoji
    obtain ⟨always, halways⟩ := exists_readField env (fun _ => rfl) (h .alwaysLog) false
    obtain ⟨logFile, hlogFile⟩ := exists_readField env (fun _ => rfl) (h .logFile) none
    simp only [ofValues?, hrules, hmultiple, hdelimiter, hemoji, halways, hlogFile]
    rfl

/-! ## Outcomes -/

/-- Fields that keep of the named values what counts. -/
def Keeps (es fields : Entries) : Prop :=
  ∀ field : Field, Entries.get? field.name fields = (Entries.get? field.name es).bind field.kept

/-- Every named value that is kept has the sort of its field. -/
def IsConfiguration (p : Platform) (es : Entries) : Prop :=
  ∀ field : Field, ∀ v, Entries.get? field.name es = some v →
    ∀ w ∈ field.kept v, field.admits p.coercions w

/-- Nothing keeps a section from being looked at: the log file can be searched and shown, and the
name that stands for the settings themselves is not used. -/
structure IsCheckable (p : Platform) (es : Entries) : Prop where
  logFile : HasSearchableLogFile p.displayDepth es
  reservedName : Entries.has reservedName es = false

theorem Keeps.isSome_ofValues? (h : Keeps es fields) :
    (ofValues? p.coercions env fields).isSome ↔ IsConfiguration p es := by
  rw [Settings.isSome_ofValues?]
  refine forall_congr' fun field => ?_
  rw [h field]
  cases Entries.get? field.name es with
  | none => simp
  | some v => simp

theorem hasSearchableLogFile_sanitizeTexts {room : Nat} :
    HasSearchableLogFile room (sanitizeTexts es) ↔ HasSearchableLogFile room es := by
  have hget : Entries.get? Field.logFile.name (sanitizeTexts es) =
      (Entries.get? Field.logFile.name es).map sanitizeValue := by
    rw [get?_sanitizeTexts, if_pos (by decide)]
  unfold HasSearchableLogFile
  rw [hget]
  cases hv : Entries.get? Field.logFile.name es with
  | none => simp
  | some v =>
    cases v with
    | text path => simp [sanitizeValue, isSearchable, Value.display]
    | _ => simp [sanitizeValue]

theorem keeps_dropEmptyRules {es' : Entries} (h : KeepsLogFile (sanitizeTexts es) es') :
    Keeps es (dropEmptyRules es') := by
  intro field
  rw [get?_dropEmptyRules, h, get?_sanitizeTexts]
  simp only [name_injective.eq_iff]
  cases hv : Entries.get? field.name es with
  | none => cases field <;> rfl
  | some v =>
    cases field with
    | rules => simp [Field.kept, Option.filter]
    | _ => simp [Field.kept]

theorem has_reservedName_dropEmptyRules {es' : Entries}
    (h : KeepsLogFile (sanitizeTexts es) es') :
    Entries.has reservedName (dropEmptyRules es') = Entries.has reservedName es := by
  have hother : ∀ field : Field, reservedName ≠ field.name := by
    intro field
    cases field <;> decide
  simp only [Entries.has_eq_isSome, get?_dropEmptyRules, h reservedName, get?_sanitizeAt,
    hother, if_false]

/-- A document whose section can be looked at is loaded. -/
theorem ofTable_of_isCheckable {document : Entries}
    (hsection : sectionEntries? ((Entries.get? settingsSection document).getD (.table [])) =
      some es) (h : IsCheckable p es) (env : Environment) :
    ∃ fields notices, Keeps es fields ∧ (∀ reason, Notice.unreadable reason ∉ notices) ∧
      ofTable p env document = match ofValues? p.coercions env fields with
        | some settings => .ok ⟨settings, notices⟩
        | none => .ok ⟨ofEnvironment p.coercions env,
            notices ++ [.unreadable "a setting has a value of the wrong sort".toList]⟩ := by
  obtain ⟨es', notices, hlog, hkeeps, hnotices⟩ := checkLogFile_of_hasSearchableLogFile
    (hasSearchableLogFile_sanitizeTexts.mpr h.logFile)
  refine ⟨dropEmptyRules es', notices, keeps_dropEmptyRules hkeeps, hnotices, ?_⟩
  have hname : Entries.has reservedName (dropEmptyRules es') = false := by
    rw [has_reservedName_dropEmptyRules hkeeps, h.reservedName]
  simp only [ofTable, ofSection_eq_ok_iff.mpr hsection, hlog, bind, Except.bind, ofFields, hname,
    Bool.false_eq_true, if_false]
  cases ofValues? p.coercions env (dropEmptyRules es') <;> rfl

/-- Only a document whose section can be looked at is loaded. -/
theorem isCheckable_of_ofTable {document : Entries} {loaded : Loaded}
    (h : ofTable p env document = .ok loaded) :
    ∃ es, sectionEntries? ((Entries.get? settingsSection document).getD (.table [])) = some es ∧
      IsCheckable p es := by
  obtain ⟨es, es', notices, hsection, hlog, hname, -⟩ := ofTable_cases h
  refine ⟨es, ofSection_eq_ok_iff.mp hsection,
    hasSearchableLogFile_sanitizeTexts.mp (hasSearchableLogFile_of_checkLogFile hlog), ?_⟩
  rwa [← has_reservedName_dropEmptyRules (keepsLogFile_of_checkLogFile hlog)]

/-! ## Contents of files -/

section Contents

variable {content : ByteArray}

/-- The content is the text of no document. -/
def IsMalformed (p : Platform) (content : ByteArray) : Prop :=
  ∃ s, String.fromUTF8? content = some s ∧ p.format.read s.toList = .error .malformed

/-- The content is the text of a document with these entries in its section. -/
def HasSection (p : Platform) (content : ByteArray) (es : Entries) : Prop :=
  ∃ s document, String.fromUTF8? content = some s ∧ p.format.read s.toList = .ok document ∧
    sectionEntries? ((Entries.get? settingsSection document).getD (.table [])) = some es

/-- What is loaded are the settings that the entries of a section name. -/
structure IsNamed (p : Platform) (env : Environment) (es : Entries) (loaded : Loaded) : Prop where
  settings : ∃ fields, Keeps es fields ∧ ofValues? p.coercions env fields = some loaded.settings
  notices : ∀ reason, Notice.unreadable reason ∉ loaded.notices

/-- What is loaded are the settings when the file names nothing, with the notice that it cannot
be read. -/
structure IsFallback (p : Platform) (env : Environment) (loaded : Loaded) : Prop where
  settings : ofValues? p.coercions env [] = some loaded.settings
  notices : ∃ reason, Notice.unreadable reason ∈ loaded.notices

theorem ofValues?_nil (c : Coercions) (env : Environment) :
    ofValues? c env [] = some (ofEnvironment c env) := by
  have hsome : (ofValues? c env []).isSome := isSome_ofValues?.mpr fun _ _ h => nomatch h
  obtain ⟨s, hs⟩ := Option.isSome_iff_exists.mp hsome
  rw [ofEnvironment, hs, Option.getD_some]

theorem ofBytes_of_isMalformed (h : IsMalformed p content) (env : Environment) :
    ∃ loaded, ofBytes p env content = .ok loaded ∧ IsFallback p env loaded := by
  obtain ⟨s, hs, hread⟩ := h
  refine ⟨⟨ofEnvironment p.coercions env,
    [.unreadable "the document is not well formed".toList]⟩, ?_, ?_⟩
  · simp only [ofBytes, hs, ofDocument, hread]
  · exact ⟨ofValues?_nil _ env, _, List.mem_singleton_self _⟩

theorem ofBytes_of_hasSection (h : HasSection p content es) (hcheck : IsCheckable p es)
    (env : Environment) : ∃ loaded, ofBytes p env content = .ok loaded ∧
      (IsConfiguration p es → IsNamed p env es loaded) ∧
      (¬IsConfiguration p es → IsFallback p env loaded) := by
  obtain ⟨s, document, hs, hread, hsection⟩ := h
  obtain ⟨fields, notices, hkeeps, hnotices, htable⟩ := ofTable_of_isCheckable hsection hcheck env
  have hbytes : ofBytes p env content = ofTable p env document := by
    simp only [ofBytes, hs, ofDocument, hread]
  rw [hbytes, htable]
  have hsome : (ofValues? p.coercions env fields).isSome ↔ IsConfiguration p es :=
    hkeeps.isSome_ofValues?
  cases hvalues : ofValues? p.coercions env fields with
  | some settings =>
    refine ⟨_, rfl, fun _ => ⟨⟨fields, hkeeps, hvalues⟩, hnotices⟩, fun hnot => ?_⟩
    exact absurd (hsome.mp (by rw [hvalues]; rfl)) hnot
  | none =>
    refine ⟨_, rfl, fun hconfiguration => ?_, fun _ => ⟨ofValues?_nil _ env, ?_⟩⟩
    · have := hsome.mpr hconfiguration
      rw [hvalues] at this
      cases this
    · exact ⟨_, List.mem_append_right _ (List.mem_singleton_self _)⟩

/-- Only documents are loaded, and only those whose section can be looked at. -/
theorem isMalformed_or_hasSection {loaded : Loaded} (h : ofBytes p env content = .ok loaded) :
    IsMalformed p content ∨ ∃ es, HasSection p content es ∧ IsCheckable p es := by
  unfold ofBytes ofDocument at h
  split at h
  · rename_i s hs
    split at h
    · rename_i document hread
      obtain ⟨es, hsection, hcheck⟩ := isCheckable_of_ofTable h
      exact .inr ⟨es, ⟨s, document, hs, hread, hsection⟩, hcheck⟩
    · rename_i hread
      exact .inl ⟨s, hs, hread⟩
    · cases h
  · cases h

theorem HasSection.unique {es' : Entries} (h : HasSection p content es)
    (h' : HasSection p content es') : es = es' := by
  obtain ⟨s, document, hs, hread, hsection⟩ := h
  obtain ⟨s', document', hs', hread', hsection'⟩ := h'
  cases hs.symm.trans hs'
  cases hread.symm.trans hread'
  exact Option.some.inj (hsection.symm.trans hsection')

theorem HasSection.not_isMalformed (h : HasSection p content es) : ¬IsMalformed p content := by
  rintro ⟨s', hs', hread'⟩
  obtain ⟨s, document, hs, hread, -⟩ := h
  cases hs.symm.trans hs'
  cases hread.symm.trans hread'

theorem outcome_of_ofBytes {loaded : Loaded} (h : ofBytes p env content = .ok loaded) :
    IsMalformed p content ∧ IsFallback p env loaded ∨
      ∃ es, HasSection p content es ∧ (IsConfiguration p es → IsNamed p env es loaded) ∧
        (¬IsConfiguration p es → IsFallback p env loaded) := by
  obtain hmalformed | ⟨es, hsection, hcheck⟩ := isMalformed_or_hasSection h
  · obtain ⟨loaded', h', hfallback⟩ := ofBytes_of_isMalformed hmalformed env
    cases h.symm.trans h'
    exact .inl ⟨hmalformed, hfallback⟩
  · obtain ⟨loaded', h', houtcome⟩ := ofBytes_of_hasSection hsection hcheck env
    cases h.symm.trans h'
    exact .inr ⟨es, hsection, houtcome⟩

/-- What becomes of the content of a settings file. It is loaded exactly if it is the text of no
document, or of a document whose section can be looked at. A section that is a configuration
gives the settings that it names; any other section and what is no document give the settings of
the environment and a notice. -/
theorem ofBytes_outcome (p : Platform) (env : Environment) (content : ByteArray) :
    ((∃ loaded, ofBytes p env content = .ok loaded) ↔
      IsMalformed p content ∨ ∃ es, HasSection p content es ∧ IsCheckable p es) ∧
    ∀ loaded, ofBytes p env content = .ok loaded →
      (IsMalformed p content → IsFallback p env loaded) ∧
      ∀ es, HasSection p content es →
        (IsConfiguration p es → IsNamed p env es loaded) ∧
        (¬IsConfiguration p es → IsFallback p env loaded) := by
  refine ⟨⟨fun ⟨loaded, h⟩ => isMalformed_or_hasSection h, ?_⟩, fun loaded h => ?_⟩
  · rintro (hmalformed | ⟨es, hsection, hcheck⟩)
    · obtain ⟨loaded, h, -⟩ := ofBytes_of_isMalformed hmalformed env
      exact ⟨loaded, h⟩
    · obtain ⟨loaded, h, -⟩ := ofBytes_of_hasSection hsection hcheck env
      exact ⟨loaded, h⟩
  · obtain ⟨hmalformed, hfallback⟩ | ⟨es, hsection, houtcome⟩ := outcome_of_ofBytes h
    · exact ⟨fun _ => hfallback, fun es hsection => absurd hmalformed hsection.not_isMalformed⟩
    · refine ⟨fun hmalformed => absurd hmalformed hsection.not_isMalformed, ?_⟩
      intro es' hsection'
      rw [hsection'.unique hsection]
      exact houtcome

/-- A file with a flag that is no truth value. -/
def undecidedFile : String := "[commitional]\nalways_log = \"sometimes\"\n"

theorem ofBytes_outcome_undecidedFile :
    ∃ loaded es, ofBytes .standard [] undecidedFile.toUTF8 = .ok loaded ∧
      HasSection .standard undecidedFile.toUTF8 es ∧ ¬IsConfiguration .standard es ∧
      IsFallback .standard [] loaded ∧ loaded.settings = standard := by
  have hload : ofBytes .standard [] undecidedFile.toUTF8 = .ok ⟨standard,
      [.unreadable "a setting has a value of the wrong sort".toList]⟩ := by
    rw [ofBytes, fromUTF8?_toUTF8]
    decide +kernel
  have hsection : HasSection .standard undecidedFile.toUTF8
      [(Field.alwaysLog.name, .text "sometimes".toList)] :=
    ⟨_, [(settingsSection, .table [(Field.alwaysLog.name, .text "sometimes".toList)])],
      fromUTF8?_toUTF8 _, by decide +kernel, rfl⟩
  have hnot : ¬IsConfiguration .standard [(Field.alwaysLog.name, .text "sometimes".toList)] :=
    fun h => absurd (h .alwaysLog _ rfl _ rfl) (by decide)
  exact ⟨_, _, hload, hsection, hnot,
    ((ofBytes_outcome .standard [] _).2 _ hload).2 _ hsection |>.2 hnot, rfl⟩

/-- A number in the place of the section, bytes that are no text, and a log file that is no text
give no settings. -/
theorem ofBytes_refused :
    ofBytes .standard [] "commitional = 5\n".toUTF8 = .error (.section (.int 5)) ∧
      ofBytes .standard [] ⟨#[0xff]⟩ = .error .notText ∧
      ofBytes .standard [] "[commitional]\nlog_file = true\n".toUTF8 =
        .error (.notSearchable (.bool true)) := by
  refine ⟨?_, ?_, ?_⟩
  · rw [ofBytes, fromUTF8?_toUTF8]
    decide +kernel
  · decide +kernel
  · rw [ofBytes, fromUTF8?_toUTF8]
    decide +kernel

end Contents

end Settings

end CommitStandard
