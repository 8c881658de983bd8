import Mathlib.Tactic
import CommitStandard.Proofs.Settings.Loading
import CommitStandard.Settings.Expansion

/-!
# Loading saved settings

Settings that were loaded from a file can be saved, and loading what was saved gives them back,
but for an empty log file, which is absent then: `Settings.reload_save`. This holds in every format
that keeps the document of the settings, in the sense of `DocumentFormat.Keeps`. A document may
order the entries of a table as it likes, so tables are compared as mappings by `Entries.Same`.
-/
namespace CommitStandard

/-! ## Tables as mappings -/

/-- Values that differ in nothing but the order of the entries of tables. The undefined number is
the same as itself. -/
inductive Value.Same : Value → Value → Prop
  | refl (v : Value) : Same v v
  | list {vs ws : List Value} (h : List.Forall₂ Same vs ws) : Same (.list vs) (.list ws)
  | table {es fs : Entries}
    (h : ∀ key, Option.Rel Same (Entries.get? key es) (Entries.get? key fs)) :
    Same (.table es) (.table fs)

/-- Tables with the same value under every key. -/
def Entries.Same (es fs : Entries) : Prop :=
  ∀ key, Option.Rel Value.Same (get? key es) (get? key fs)

section
variable {α β : Type} {r : α → β → Prop} {o : Option α}

theorem eq_none_of_rel (h : Option.Rel r o none) : o = none := by
  cases h
  rfl

theorem exists_of_rel_some {b : β} (h : Option.Rel r o (some b)) : ∃ a, o = some a ∧ r a b := by
  cases h with
  | some h => exact ⟨_, rfl, h⟩

end

namespace Value.Same

/-- A value with nothing in it is the same as no other. -/
theorem eq_of_plain {v w : Value} (h : Same v w) (hlist : ∀ vs, w ≠ .list vs)
    (htable : ∀ es, w ≠ .table es) : v = w := by
  cases h with
  | refl => rfl
  | list => exact absurd rfl (hlist _)
  | table => exact absurd rfl (htable _)

end Value.Same

namespace Entries

theorem Same.of_get?_eq {es fs : Entries} (h : ∀ key, get? key es = get? key fs) :
    Same es fs := by
  intro key
  rw [h key]
  cases get? key fs with
  | none => exact .none
  | some v => exact .some (.refl v)

theorem same_table_iff {v : Value} {fs : Entries} :
    Value.Same v (.table fs) ↔ ∃ es, v = .table es ∧ Same es fs := by
  constructor
  · rintro (_ | _ | h)
    · exact ⟨fs, rfl, .of_get?_eq fun _ => rfl⟩
    · exact ⟨_, rfl, h⟩
  · rintro ⟨es, rfl, h⟩
    exact .table h

theorem Same.singleton (key : Text) {v w : Value} (h : Value.Same v w) :
    Same [(key, v)] [(key, w)] := by
  intro other
  simp only [get?, List.lookup_cons, List.lookup_nil]
  cases other == key with
  | false => exact .none
  | true => exact .some h

/-- An entry may stand at the end as well as at the start. -/
theorem get?_concat {key : Text} {v : Value} {es : Entries} (h : get? key es = none)
    (other : Text) : get? other (es ++ [(key, v)]) = get? other ((key, v) :: es) := by
  simp only [get?, List.lookup_append, List.lookup_cons, List.lookup_nil] at h ⊢
  by_cases hkey : other = key
  · simp [hkey, h]
  · simp [beq_eq_false_iff_ne.2 hkey]

theorem Same.ne_nil {es fs : Entries} (h : Same es fs) (hne : fs ≠ []) : es ≠ [] := by
  obtain ⟨⟨k, w⟩, fs, rfl⟩ := List.exists_cons_of_ne_nil hne
  obtain ⟨v, hv, -⟩ := exists_of_rel_some (b := w) (by simpa [get?] using h k)
  rintro rfl
  cases hv

end Entries

/-- A format keeps a table: it writes it, and reads what it has written as the same table. -/
def DocumentFormat.Keeps (f : DocumentFormat) (document : Entries) : Prop :=
  ∃ s reread, f.write document = .ok s ∧ f.read s = .ok reread ∧ Entries.Same reread document

namespace Settings

/-! ## Loading what was saved -/

abbrev document (s : Settings) : Entries := [(settingsSection, .table s.toTable)]

/-- Settings that a document gives back: all are the same, with the rules as a mapping, but that
an empty log file is absent. -/
structure IsGivenBack (s reloaded : Settings) : Prop where
  rules : Entries.Same reloaded.rules s.rules
  enableMultipleScopes : reloaded.enableMultipleScopes = s.enableMultipleScopes
  scopeDelimiter : reloaded.scopeDelimiter = s.scopeDelimiter
  breakingEmoji : reloaded.breakingEmoji = s.breakingEmoji
  alwaysLog : reloaded.alwaysLog = s.alwaysLog
  logFile : reloaded.logFile = if s.logFile = some [] then none else s.logFile

theorem isStorable_toTable (s : Settings) :
    Entries.isStorable s.toTable = Entries.isStorable s.rules := by
  cases hlog : s.logFile with
  | none => simp [toTable, hlog, Entries.isStorable]
  | some path =>
    by_cases hsafe : isSafePath path <;> simp [toTable, hlog, hsafe, Entries.isStorable]

/-- The value under the name of a field in the table of settings. -/
def valueOf? (s : Settings) : Field → Option Value
  | .rules => some (.table s.rules)
  | .enableMultipleScopes => some (.bool s.enableMultipleScopes)
  | .scopeDelimiter => some (.text s.scopeDelimiter)
  | .breakingEmoji => some (.text s.breakingEmoji)
  | .alwaysLog => some (.bool s.alwaysLog)
  | .logFile => (s.logFile.filter isSafePath).map .text

theorem get?_toTable (s : Settings) (field : Field) :
    Entries.get? field.name s.toTable = s.valueOf? field := by
  cases hlog : s.logFile with
  | none => cases field <;> simp [toTable, hlog, valueOf?] <;> rfl
  | some path =>
    by_cases hsafe : isSafePath path
    · cases field <;> simp [toTable, hlog, hsafe, valueOf?, Option.filter] <;> rfl
    · cases field <;> simp [toTable, hlog, hsafe, valueOf?, Option.filter] <;> rfl

theorem get?_reservedName_toTable (s : Settings) :
    Entries.get? reservedName s.toTable = none := by
  cases hlog : s.logFile with
  | none => simp only [toTable, hlog]; rfl
  | some path =>
    by_cases hsafe : isSafePath path <;> simp only [toTable, hlog, hsafe] <;> rfl

/-- A table that is the same as the table of settings, field by field. -/
structure IsReread (s : Settings) (fields : Entries) (rules : Entries) : Prop where
  rules : Entries.get? Field.rules.name fields = some (.table rules)
  others : ∀ field ≠ Field.rules, Entries.get? field.name fields = s.valueOf? field
  reserved : Entries.get? reservedName fields = none

theorem plain_of_valueOf? {s : Settings} {field : Field} (hne : field ≠ .rules) {v : Value}
    (h : s.valueOf? field = some v) : (∀ vs, v ≠ .list vs) ∧ ∀ es, v ≠ .table es := by
  cases field with
  | rules => exact absurd rfl hne
  | logFile =>
    obtain ⟨path, -, rfl⟩ := Option.map_eq_some_iff.1 h
    simp
  | _ =>
    cases h
    simp

theorem exists_isReread {s : Settings} {fields : Entries} (h : Entries.Same fields s.toTable) :
    ∃ rules, Entries.Same rules s.rules ∧ s.IsReread fields rules := by
  have hfield : ∀ field,
      Option.Rel Value.Same (Entries.get? field.name fields) (s.valueOf? field) :=
    fun field => get?_toTable s field ▸ h field.name
  obtain ⟨v, hv, hsame⟩ := exists_of_rel_some (hfield .rules)
  obtain ⟨rules, rfl, hrules⟩ := Entries.same_table_iff.1 hsame
  refine ⟨rules, hrules, hv, fun field hne => ?_, ?_⟩
  · have hrel := hfield field
    cases hvalue : s.valueOf? field with
    | none => exact eq_none_of_rel (hvalue ▸ hrel)
    | some w =>
      obtain ⟨v, hv, hsame⟩ := exists_of_rel_some (hvalue ▸ hrel)
      obtain ⟨hlist, htable⟩ := plain_of_valueOf? hne hvalue
      rw [hv, hsame.eq_of_plain hlist htable]
  · exact eq_none_of_rel (get?_reservedName_toTable s ▸ h reservedName)

section
variable {s : Settings} {fields rules : Entries}

theorem IsReread.get?_sanitizeTexts (h : s.IsReread fields rules) (hs : s.IsSettled)
    (field : Field) :
    Entries.get? field.name (sanitizeTexts fields) = Entries.get? field.name fields := by
  rw [Settings.get?_sanitizeTexts]
  split
  · rename_i hfield
    rw [h.others field (by rintro rfl; simp at hfield)]
    cases field with
    | scopeDelimiter => simp [valueOf?, sanitizeValue, hs.sanitize_scopeDelimiter]
    | breakingEmoji => simp [valueOf?, sanitizeValue, hs.sanitize_breakingEmoji]
    | logFile =>
      cases hpath : s.logFile.filter isSafePath with
      | none => simp [valueOf?, hpath]
      | some path =>
        have hfixed := hs.sanitize_logFile path (Option.filter_eq_some_iff.1 hpath).1
        simp [valueOf?, hpath, sanitizeValue, hfixed]
    | _ => simp at hfield
  · rfl

theorem IsReread.checkLogFile (h : s.IsReread fields rules) (hs : s.IsSettled) (room : Nat) :
    checkLogFile room (sanitizeTexts fields) = .ok (sanitizeTexts fields, []) := by
  have hget := (h.get?_sanitizeTexts hs .logFile).trans (h.others .logFile (by decide))
  cases hpath : s.logFile.filter isSafePath with
  | none => simp [Settings.checkLogFile, hget, valueOf?, hpath]
  | some path =>
    have hsafe := (Option.filter_eq_some_iff.1 hpath).2
    simp [Settings.checkLogFile, hget, valueOf?, hpath, hsafe, Value.isGiven]

theorem IsReread.get?_dropEmptyRules (h : s.IsReread fields rules) (hs : s.IsSettled)
    (hrules : rules ≠ []) (field : Field) :
    Entries.get? field.name (dropEmptyRules (sanitizeTexts fields)) =
      Entries.get? field.name fields := by
  simp only [Settings.get?_dropEmptyRules, h.get?_sanitizeTexts hs, name_injective.eq_iff]
  split
  · rename_i hfield
    rw [hfield, h.rules]
    simpa [Option.filter, Value.isGiven] using hrules
  · rfl

theorem IsReread.has_reservedName (h : s.IsReread fields rules) :
    Entries.has reservedName (dropEmptyRules (sanitizeTexts fields)) = false := by
  rw [Entries.has_eq_isSome, Settings.get?_dropEmptyRules, if_neg (by decide)]
  simp [get?_sanitizeAt, h.reserved]

theorem IsReread.ofValues? (h : s.IsReread fields rules) (hs : s.IsSettled)
    (hrules : rules ≠ []) (c : Coercions) {env : Environment} (henv : env.HasNoSettings) :
    ofValues? c env (dropEmptyRules (sanitizeTexts fields)) =
      some { s with rules := rules, logFile := s.logFile.filter isSafePath } := by
  have hothers : ∀ field ≠ Field.rules, fieldValue? env
      (dropEmptyRules (sanitizeTexts fields)) field = s.valueOf? field := by
    intro field hne
    rw [fieldValue?_of_hasNoSettings henv, h.get?_dropEmptyRules hs hrules, h.others field hne]
  have hruleField : fieldValue? env (dropEmptyRules (sanitizeTexts fields)) .rules =
      some (.table rules) := by
    rw [fieldValue?_of_hasNoSettings henv, h.get?_dropEmptyRules hs hrules, h.rules]
  simp only [Settings.ofValues?, readField, hruleField, hothers .enableMultipleScopes (by decide),
    hothers .scopeDelimiter (by decide), hothers .breakingEmoji (by decide),
    hothers .alwaysLog (by decide), hothers .logFile (by decide), valueOf?, Coercions.flag?_bool]
  cases s.logFile.filter isSafePath <;> rfl

end

/-- Loading a document that is the same as the one written for settled settings gives them back. -/
theorem ofTable_of_same (p : Platform) {env : Environment} (henv : env.HasNoSettings) {s : Settings}
    (hs : s.IsSettled) {reread : Entries} (h : Entries.Same reread s.document) :
    ∃ reloaded, ofTable p env reread = .ok ⟨reloaded, []⟩ ∧ s.IsGivenBack reloaded := by
  obtain ⟨v, hv, hsame⟩ := exists_of_rel_some (h settingsSection)
  obtain ⟨fields, rfl, hfields⟩ := Entries.same_table_iff.1 hsame
  obtain ⟨rules, hrules, hreread⟩ := exists_isReread hfields
  have hne : rules ≠ [] := hrules.ne_nil hs.rules_ne_nil
  refine ⟨{ s with rules := rules, logFile := s.logFile.filter isSafePath }, ?_,
    hrules, rfl, rfl, rfl, rfl, ?_⟩
  · simp only [ofTable, hv, Option.getD_some, ofSection, bind, Except.bind,
      hreread.checkLogFile hs, ofFields, hreread.has_reservedName,
      hreread.ofValues? hs hne p.coercions henv]
    rfl
  · cases hpath : s.logFile with
    | none => rfl
    | some path =>
      obtain rfl | hsafe := hs.isSafe_logFile path hpath
      · rfl
      · have hpathNe : path ≠ [] := by
          rintro rfl
          cases hsafe
        simp [Option.filter, hsafe, hpathNe]

/-! ## Saving -/

theorem fromUTF8?_toUTF8 (s : String) : String.fromUTF8? s.toUTF8 = some s :=
  dif_pos s.isValidUTF8

theorem exists_save?_of_write {p : Platform} {s : Settings} {document : Text}
    (h : p.format.write s.document = .ok document) :
    ∃ saved, s.save? p = some saved ∧ saved.document = some document := by
  rw [save?, h]
  exact ⟨_, rfl, rfl⟩

theorem isStorable_document {s : Settings} (h : s.IsSettled) : Entries.isStorable s.document := by
  simp [Entries.isStorable, isStorable_toTable, h.isStorable_rules]

/-- Settings that were loaded from a file are saved, and loading what was saved gives them back.
The format reads no absent value, and it keeps the document of these settings if there is no absent
value in it; no variable of the environment names a setting. -/
theorem reload_save {p : Platform} (hread : p.format.IsNullFree) {env : Environment}
    (henv : env.HasNoSettings) {content : ByteArray} {loaded : Loaded}
    (hload : ofBytes p env content = .ok loaded)
    (hkeeps : Entries.isStorable loaded.settings.document →
      p.format.Keeps loaded.settings.document) :
    ∃ saved document reloaded,
      loaded.settings.save? p = some saved ∧ saved.document = some document ∧
      ofBytes p env (String.ofList document).toUTF8 = .ok ⟨reloaded, []⟩ ∧
      loaded.settings.IsGivenBack reloaded := by
  have hs := isSettled_of_ofBytes hread henv hload
  obtain ⟨document, reread, hwrite, hreread, hsame⟩ := hkeeps (isStorable_document hs)
  obtain ⟨saved, hsave, hdocument⟩ := exists_save?_of_write hwrite
  obtain ⟨reloaded, hreload, hback⟩ := ofTable_of_same p henv hs hsame
  refine ⟨saved, document, reloaded, hsave, hdocument, ?_, hback⟩
  simp only [ofBytes, fromUTF8?_toUTF8, ofDocument, String.toList_ofList, hreread, hreload]

deriving instance DecidableEq for LoadFault, Settings, Loaded

/-- A file with a flag in words, a delimiter between blanks and an empty log file. -/
def wordedFile : Text :=
  ("[commitional]\nenable_multiple_scopes = \"yes\"\nscope_delimiter = \" | \"\n" ++
    "log_file = \"\"\n\n[commitional.rules]\nsubject-max-length = [1, \"always\", 50]\n").toList

def worded : Settings :=
  ⟨[("subject-max-length".toList, .list [.int 1, .text "always".toList, .int 50])], true, ['|'],
    standard.breakingEmoji, false, some []⟩

theorem keeps_worded : Toml.format.Keeps worded.document := by
  -- The table of the rules has a header of its own, so it is read last.
  have hread : (Toml.format.write worded.document).toOption.map Toml.format.read = some
      (.ok [(settingsSection,
        .table (worded.toTable.tail ++ [(Field.rules.name, .table worded.rules)]))]) := by
    decide +kernel
  cases hwrite : Toml.format.write worded.document with
  | error e =>
    rw [hwrite] at hread
    cases hread
  | ok s =>
    rw [hwrite] at hread
    exact ⟨s, _, hwrite, Option.some.inj hread, .singleton _ <|
      Entries.same_table_iff.2 ⟨_, rfl, .of_get?_eq (Entries.get?_concat rfl)⟩⟩

theorem reload_save_worded :
    Toml.format.IsNullFree ∧ Environment.HasNoSettings [("PATH".toList, "/bin".toList)] ∧
      Toml.format.Keeps worded.document ∧
      ∃ saved document reloaded,
        worded.save? .standard = some saved ∧ saved.document = some document ∧
        ofBytes .standard [("PATH".toList, "/bin".toList)] (String.ofList document).toUTF8 =
          .ok ⟨reloaded, []⟩ ∧
        worded.IsGivenBack reloaded := by
  have henv : Environment.HasNoSettings [("PATH".toList, "/bin".toList)] := by
    intro e he
    rw [List.mem_singleton.1 he]
    decide
  have hload : ofBytes .standard [("PATH".toList, "/bin".toList)]
      (String.ofList wordedFile).toUTF8 = .ok ⟨worded, []⟩ := by
    rw [ofBytes, fromUTF8?_toUTF8]
    decide +kernel
  exact ⟨Toml.isNullFree_format, henv, keeps_worded,
    reload_save Toml.isNullFree_format henv hload fun _ => keeps_worded⟩

end Settings

end CommitStandard
