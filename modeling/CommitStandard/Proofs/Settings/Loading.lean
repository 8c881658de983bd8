import Mathlib.Tactic
import CommitStandard.Proofs.Text.Trimming
import CommitStandard.Proofs.Toml.Storable
import CommitStandard.Settings.File

/-!
# Settings from a file

Whatever a settings file holds, the settings loaded from it are settled: there are rules, the
absent value occurs nowhere in them, texts are sanitized, and a log file is safe or empty.
`Settings.IsSettled` says so, and `Settings.isSettled_of_ofBytes` shows it for every file that can
be loaded, those that fall back to the default settings included, in every format that reads no
absent value. The steps of loading are
described by the values that they leave under the names of the fields.
-/
namespace CommitStandard

namespace Entries

theorem has_eq_isSome (key : Text) (es : Entries) : has key es = (get? key es).isSome := by
  induction es with
  | nil => rfl
  | cons e es ih =>
    obtain ⟨k, v⟩ := e
    simp only [has, List.any_cons, get?, List.lookup_cons] at ih ⊢
    by_cases h : key = k
    · simp [h]
    · simp [beq_eq_false_iff_ne.2 h, beq_eq_false_iff_ne.2 (Ne.symm h), ih]

theorem get?_erase (key other : Text) (es : Entries) :
    get? other (erase key es) = if other = key then none else get? other es := by
  induction es with
  | nil => simp [erase]
  | cons e es ih =>
    obtain ⟨k, v⟩ := e
    simp only [get?, erase] at ih ⊢
    by_cases hk : k = key
    · by_cases h : other = key
      · simpa [hk, h] using ih
      · simpa [hk, List.lookup_cons, beq_eq_false_iff_ne.2 h] using ih
    · by_cases h : other = k
      · simp [hk, h]
      · simp [hk, List.lookup_cons, beq_eq_false_iff_ne.2 h, ih]

end Entries

theorem bind_eq_ok_iff {ε α β : Type} {x : Except ε α} {f : α → Except ε β} {b : β} :
    x >>= f = .ok b ↔ ∃ a, x = .ok a ∧ f a = .ok b := by
  cases x <;> simp [bind, Except.bind]

/-- No variable of the environment has a name of the settings. -/
def Environment.HasNoSettings (env : Environment) : Prop :=
  ∀ e ∈ env, ¬"COMMITIONAL_".toList <+: e.1

namespace Settings

/-! ## Sanitized texts -/

theorem sanitize_sanitize (s : Text) : sanitize (sanitize s) = sanitize s := by
  have hmem : ∀ c ∈ sanitize s, !isStray c := by
    intro c hc
    exact (List.mem_filter.1 (List.mem_of_mem_take (Text.mem_of_mem_strip hc))).2
  have hlength : (sanitize s).length ≤ maxTextLength :=
    (Text.length_strip_le _).trans (List.length_take_le ..)
  conv_lhs => rw [sanitize, List.filter_eq_self.2 hmem, List.take_of_length_le hlength]
  exact Text.strip_strip _

/-! ## The environment -/

theorem isPrefix_variable {field : Field} {name : Text} (h : field.variable? = some name) :
    "COMMITIONAL_".toList <+: name := by
  cases field <;> cases h <;> decide

theorem fieldValue?_of_hasNoSettings {env : Environment} (henv : env.HasNoSettings)
    (fields : Entries) (field : Field) :
    fieldValue? env fields field = Entries.get? field.name fields := by
  unfold fieldValue?
  cases hname : field.variable? with
  | none => simp
  | some name =>
    have hunset : env.lookup name = none := by
      refine List.lookup_eq_none_iff.2 fun e he => bne_iff_ne.2 ?_
      rintro rfl
      exact henv e he (isPrefix_variable hname)
    simp [hunset]

/-! ## The fields of a table -/

theorem name_injective : Function.Injective Field.name := by
  intro a b h
  cases a <;> cases b <;> first | rfl | exact absurd h (by decide)

def sanitizeValue : Value → Value
  | .text s => .text (sanitize s)
  | v => v

theorem get?_sanitizeAt (field : Field) (key : Text) (es : Entries) :
    Entries.get? key (sanitizeAt field es) =
      if key = field.name then (Entries.get? key es).map sanitizeValue
      else Entries.get? key es := by
  unfold sanitizeAt
  split
  · rename_i s hs
    rw [Entries.get?_put]
    by_cases h : key = field.name
    · simp [h, hs, sanitizeValue]
    · simp [h]
  · rename_i hs
    by_cases h : key = field.name
    · subst h
      cases hget : Entries.get? field.name es with
      | none => simp
      | some v =>
        cases v with
        | text s => exact absurd hget (hs s)
        | _ => simp [sanitizeValue]
    · simp [h]

/-- A section with its three texts sanitized. -/
abbrev sanitizeTexts (es : Entries) : Entries :=
  sanitizeAt .logFile (sanitizeAt .breakingEmoji (sanitizeAt .scopeDelimiter es))

theorem get?_sanitizeTexts (field : Field) (es : Entries) :
    Entries.get? field.name (sanitizeTexts es) =
      if field ∈ [Field.scopeDelimiter, .breakingEmoji, .logFile] then
        (Entries.get? field.name es).map sanitizeValue
      else Entries.get? field.name es := by
  simp only [get?_sanitizeAt, name_injective.eq_iff]
  cases field <;> rfl

theorem get?_dropEmptyRules (key : Text) (es : Entries) :
    Entries.get? key (dropEmptyRules es) =
      if key = Field.rules.name then (Entries.get? key es).filter Value.isGiven
      else Entries.get? key es := by
  unfold dropEmptyRules
  by_cases hkey : key = Field.rules.name
  · subst hkey
    cases hget : Entries.get? Field.rules.name es with
    | none => simp [hget]
    | some v =>
      cases hv : v.isGiven with
      | false => simp [Entries.get?_erase, Option.filter, hv]
      | true => simp [hget, Option.filter, hv]
  · rw [if_neg hkey]
    split
    · split
      · rfl
      · rw [Entries.get?_erase, if_neg hkey]
    · rfl

/-! ## The log file -/

/-- Whether it can be looked up in a value what makes a path unsafe: in a text, and in a list or
a table that holds the name of the directory above. -/
def isSearchable : Value → Bool
  | .text _ => true
  | .list items => items.any fun i => i.text? == some "..".toList
  | .table fields => Entries.has "..".toList fields
  | _ => false

/-- There is no log file that counts as given and cannot be searched or cannot be shown. A text
can always be shown. -/
def HasSearchableLogFile (room : Nat) (es : Entries) : Prop :=
  ∀ v, Entries.get? Field.logFile.name es = some v → v.isGiven →
    isSearchable v ∧ ∃ shown, v.display room = .ok shown

/-- The log file that stays: one that counts as given only if it is a safe path. -/
def keptLogFile (v : Value) : Value :=
  if v.isGiven then
    match v with
    | .text path => if isSafePath path then v else .null
    | _ => .null
  else v

/-- Entries that differ in the log file, which is the one that stays. -/
def KeepsLogFile (es es' : Entries) : Prop :=
  ∀ key, Entries.get? key es' =
    if key = Field.logFile.name then (Entries.get? key es).map keptLogFile
    else Entries.get? key es

section LogFile

variable {room : Nat} {es es' : Entries} {v : Value} {notices : List Notice}

theorem keepsLogFile_self (h : (Entries.get? Field.logFile.name es).map keptLogFile =
    Entries.get? Field.logFile.name es) : KeepsLogFile es es := by
  intro key
  split
  · rename_i hkey
    rw [hkey, h]
  · rfl

theorem keepsLogFile_put (hv : Entries.get? Field.logFile.name es = some v)
    (hkept : keptLogFile v = .null) :
    KeepsLogFile es (Entries.put Field.logFile.name .null es) := by
  intro key
  rw [Entries.get?_put]
  split
  · rename_i hkey
    rw [hkey, hv, Option.map_some, hkept]
  · rfl

theorem dropLogFile_of_display {shown : Text} (h : v.display room = .ok shown) (es : Entries) :
    dropLogFile room es v =
      .ok (Entries.put Field.logFile.name .null es, [.unsafeLogFile shown]) := by
  rw [dropLogFile, h]
  rfl

theorem exists_display_of_dropLogFile {checked : Entries × List Notice}
    (h : dropLogFile room es v = .ok checked) : ∃ shown, v.display room = .ok shown := by
  cases hshown : v.display room with
  | ok shown => exact ⟨shown, rfl⟩
  | error e =>
    rw [dropLogFile, hshown] at h
    cases h

/-- A log file that can be searched stays or is dropped. -/
theorem checkLogFile_of_hasSearchableLogFile (h : HasSearchableLogFile room es) :
    ∃ es' notices, checkLogFile room es = .ok (es', notices) ∧
      KeepsLogFile es es' ∧ ∀ reason, Notice.unreadable reason ∉ notices := by
  cases hv : Entries.get? Field.logFile.name es with
  | none =>
    exact ⟨es, [], by simp [checkLogFile, hv], keepsLogFile_self (by rw [hv, Option.map_none]),
      by simp⟩
  | some v =>
    have hstay (hkept : keptLogFile v = v) : KeepsLogFile es es :=
      keepsLogFile_self (by rw [hv, Option.map_some, hkept])
    by_cases hgiven : v.isGiven
    · obtain ⟨hsearchable, shown, hshown⟩ := h v hv hgiven
      have hdrop (hkept : keptLogFile v = .null)
          (hcheck : checkLogFile room es = dropLogFile room es v) :
          ∃ es' notices, checkLogFile room es = .ok (es', notices) ∧
            KeepsLogFile es es' ∧ ∀ reason, Notice.unreadable reason ∉ notices :=
        ⟨_, _, hcheck.trans (dropLogFile_of_display hshown es), keepsLogFile_put hv hkept,
          by simp⟩
      cases v with
      | text path =>
        by_cases hsafe : isSafePath path
        · refine ⟨es, [], ?_, hstay ?_, by simp⟩
          · simp only [checkLogFile, hv, hgiven, hsafe, if_true]
          · simp only [keptLogFile, hgiven, hsafe, if_true]
        · refine hdrop ?_ ?_
          · simp only [keptLogFile, hgiven, hsafe, if_true, if_false, Bool.false_eq_true]
          · simp only [checkLogFile, hv, hgiven, hsafe, if_true, if_false, Bool.false_eq_true]
      | list items | table fields =>
        refine hdrop ?_ ?_
        · simp only [keptLogFile, hgiven, if_true]
        · simp only [checkLogFile, hv, hgiven, if_true]
          exact if_pos hsearchable
      | _ => cases hsearchable
    · refine ⟨es, [], ?_, hstay ?_, by simp⟩
      · simp only [checkLogFile, hv, hgiven, if_false, Bool.false_eq_true]
      · simp only [keptLogFile, hgiven, if_false, Bool.false_eq_true]

theorem hasSearchableLogFile_of_checkLogFile {checked : Entries × List Notice}
    (h : checkLogFile room es = .ok checked) : HasSearchableLogFile room es := by
  intro v hv hgiven
  simp only [checkLogFile, hv, hgiven, if_true] at h
  cases v with
  | text path => exact ⟨rfl, path, rfl⟩
  | list items | table fields =>
    dsimp only at h
    split at h
    · rename_i hsearchable
      exact ⟨hsearchable, exists_display_of_dropLogFile h⟩
    · cases h
  | _ => cases h

theorem keepsLogFile_of_checkLogFile (h : checkLogFile room es = .ok (es', notices)) :
    KeepsLogFile es es' := by
  obtain ⟨es'', notices', h', hkeeps, -⟩ :=
    checkLogFile_of_hasSearchableLogFile (hasSearchableLogFile_of_checkLogFile h)
  cases h.symm.trans h'
  exact hkeeps

/-- A log file is kept as it is or dropped. -/
theorem eq_of_keptLogFile {w : Value} (hv : v ≠ .null) (h : keptLogFile w = v) : w = v := by
  unfold keptLogFile at h
  split at h
  · split at h
    · split at h
      · exact h
      · exact absurd h.symm hv
    · exact absurd h.symm hv
  · exact h

/-- A path that is kept is safe or empty. -/
theorem isSafePath_of_keptLogFile {path : Text} (h : keptLogFile v = .text path) :
    path = [] ∨ isSafePath path := by
  obtain rfl := eq_of_keptLogFile (by simp) h
  by_cases hgiven : (Value.text path).isGiven
  · by_cases hsafe : isSafePath path
    · exact .inr hsafe
    · simp [keptLogFile, hgiven, hsafe] at h
  · exact .inl (by simpa [Value.isGiven] using hgiven)

theorem get?_of_checkLogFile (h : checkLogFile room es = .ok (es', notices)) {key : Text}
    (hv : v ≠ .null) (hget : Entries.get? key es' = some v) : Entries.get? key es = some v := by
  rw [keepsLogFile_of_checkLogFile h] at hget
  split at hget
  · obtain ⟨w, hw, hkept⟩ := Option.map_eq_some_iff.1 hget
    rw [hw, eq_of_keptLogFile hv hkept]
  · exact hget

end LogFile

/-! ## What loading promises -/

/-- What holds of settings from a file: there are rules, without the absent value in them, texts
are sanitized, and the log file is safe or empty. -/
structure IsSettled (s : Settings) : Prop where
  rules_ne_nil : s.rules ≠ []
  isStorable_rules : Entries.isStorable s.rules
  sanitize_scopeDelimiter : sanitize s.scopeDelimiter = s.scopeDelimiter
  sanitize_breakingEmoji : sanitize s.breakingEmoji = s.breakingEmoji
  sanitize_logFile : ∀ path ∈ s.logFile, sanitize path = path
  isSafe_logFile : ∀ path ∈ s.logFile, path = [] ∨ isSafePath path

theorem isSettled_standard : standard.IsSettled where
  rules_ne_nil := by simp [standard, defaultRules]
  isStorable_rules := by decide
  sanitize_scopeDelimiter := by decide
  sanitize_breakingEmoji := by decide
  sanitize_logFile := by simp [standard]
  isSafe_logFile := by simp [standard]

theorem isStorable_of_parts? {v : Value} {parts : List Value} (hv : v.isStorable)
    (h : parts? v = some parts) : ∀ p ∈ parts, p.isStorable := by
  cases v with
  | list items =>
    cases h
    simpa using hv
  | text s =>
    cases h
    simp
  | table entries =>
    cases h
    simp
  | _ => cases h

theorem isStorable_of_put {key v : Value} {content content' : SectionContent}
    (hs : Entries.isStorable content.entries) (hv : v.isStorable)
    (h : content.put key v = .ok content') : Entries.isStorable content'.entries := by
  cases key with
  | text key =>
    cases h
    exact Entries.isStorable_put hs hv
  | list _ | table _ => cases h
  | _ =>
    cases h
    exact hs

theorem isStorable_of_ofPairs {items : List Value} {index : Nat} {content content' : SectionContent}
    (hitems : ∀ v ∈ items, v.isStorable) (hs : Entries.isStorable content.entries)
    (h : ofPairs index content items = .ok content') : Entries.isStorable content'.entries := by
  induction items generalizing index content with
  | nil =>
    cases h
    exact hs
  | cons item rest ih =>
    obtain ⟨hitem, hrest⟩ := List.forall_mem_cons.1 hitems
    unfold ofPairs at h
    split at h
    · cases h
    · rename_i k v hparts
      have hv : v.isStorable := isStorable_of_parts? hitem hparts v (by simp)
      obtain ⟨next, hput, h⟩ := bind_eq_ok_iff.1 h
      exact ih hrest (isStorable_of_put hs hv hput) h
    · cases h

theorem isStorable_of_ofSection {v : Value} {content : SectionContent} (hv : v.isStorable)
    (h : ofSection v = .ok content) : Entries.isStorable content.entries := by
  unfold ofSection at h
  split at h
  · cases h
    simpa using hv
  · split at h
    · rename_i hparts
      exact isStorable_of_ofPairs (isStorable_of_parts? hv hparts) Entries.isStorable_nil h
    · cases h

theorem readField_eq_some_iff {α : Type} {env : Environment} (henv : env.HasNoSettings)
    {fields : Entries} {field : Field} {read : Value → Option α} {default a : α} :
    readField env fields field read default = some a ↔
      Entries.get? field.name fields = none ∧ a = default ∨
        ∃ v, Entries.get? field.name fields = some v ∧ read v = some a := by
  rw [readField, fieldValue?_of_hasNoSettings henv]
  cases Entries.get? field.name fields with
  | none => simp [eq_comm]
  | some v => simp

theorem ofEnvironment_of_hasNoSettings (c : Coercions) {env : Environment}
    (henv : env.HasNoSettings) : ofEnvironment c env = standard := by
  simp [ofEnvironment, ofValues?, readField, fieldValue?_of_hasNoSettings henv, standard]

theorem table?_eq_some_iff {v : Value} {es : Entries} : table? v = some es ↔ v = .table es := by
  cases v <;> simp [table?]

theorem text?_eq_some_iff {v : Value} {t : Text} : v.text? = some t ↔ v = .text t := by
  cases v <;> simp [Value.text?]

theorem optionalText?_eq_some_iff {v : Value} {path : Text} :
    optionalText? v = some (some path) ↔ v = .text path := by
  cases v <;> simp [optionalText?]

/-- Settings of named values are settled if the values are. -/
theorem isSettled_of_ofValues? {c : Coercions} {env : Environment} (henv : env.HasNoSettings)
    {fields : Entries} {s : Settings}
    (hrules : ∀ v, Entries.get? Field.rules.name fields = some v → v.isGiven ∧ v.isStorable)
    (htext : ∀ field ∈ [Field.scopeDelimiter, .breakingEmoji, .logFile], ∀ t,
      Entries.get? field.name fields = some (.text t) → sanitize t = t)
    (hlogFile : ∀ path, Entries.get? Field.logFile.name fields = some (.text path) →
      path = [] ∨ isSafePath path)
    (h : ofValues? c env fields = some s) : s.IsSettled := by
  simp only [ofValues?, Option.bind_eq_bind, Option.bind_eq_some_iff, readField_eq_some_iff henv]
    at h
  obtain ⟨rules, hrulesField, multiple, -, delimiter, hdelimiter, emoji, hemoji, always, -,
    logFile, hlogFileField, ⟨⟩⟩ := h
  have hlog : ∀ path ∈ logFile, Entries.get? Field.logFile.name fields = some (.text path) := by
    rintro path rfl
    obtain ⟨-, ⟨⟩⟩ | ⟨v, hv, hread⟩ := hlogFileField
    rwa [← optionalText?_eq_some_iff.1 hread]
  have hsettledRules : rules ≠ [] ∧ Entries.isStorable rules := by
    obtain ⟨-, rfl⟩ | ⟨v, hv, hread⟩ := hrulesField
    · exact ⟨isSettled_standard.rules_ne_nil, isSettled_standard.isStorable_rules⟩
    · obtain ⟨hgiven, hstorable⟩ := hrules v hv
      rw [table?_eq_some_iff.1 hread] at hgiven hstorable
      exact ⟨by simpa [Value.isGiven] using hgiven, by simpa using hstorable⟩
  constructor
  case rules_ne_nil => exact hsettledRules.1
  case isStorable_rules => exact hsettledRules.2
  case sanitize_scopeDelimiter =>
    obtain ⟨-, rfl⟩ | ⟨v, hv, hread⟩ := hdelimiter
    · exact isSettled_standard.sanitize_scopeDelimiter
    · exact htext .scopeDelimiter (by simp) _ (text?_eq_some_iff.1 hread ▸ hv)
  case sanitize_breakingEmoji =>
    obtain ⟨-, rfl⟩ | ⟨v, hv, hread⟩ := hemoji
    · exact isSettled_standard.sanitize_breakingEmoji
    · exact htext .breakingEmoji (by simp) _ (text?_eq_some_iff.1 hread ▸ hv)
  case sanitize_logFile => exact fun path hpath => htext .logFile (by simp) _ (hlog path hpath)
  case isSafe_logFile => exact fun path hpath => hlogFile path (hlog path hpath)

theorem sanitize_of_sanitizeValue {v : Value} {t : Text} (h : sanitizeValue v = .text t) :
    sanitize t = t := by
  cases v with
  | text s =>
    cases h
    exact sanitize_sanitize s
  | _ => cases h

/-- The steps of loading a document. -/
theorem ofTable_cases {p : Platform} {env : Environment} {document : Entries} {loaded : Loaded}
    (h : ofTable p env document = .ok loaded) :
    ∃ entries es notices,
      ofSection ((Entries.get? settingsSection document).getD (.table [])) =
        .ok ⟨entries, false⟩ ∧
      checkLogFile p.displayDepth (sanitizeTexts entries) = .ok (es, notices) ∧
      Entries.has reservedName (dropEmptyRules es) = false ∧
      (ofValues? p.coercions env (dropEmptyRules es) = some loaded.settings ∨
        loaded.settings = ofEnvironment p.coercions env) := by
  obtain ⟨⟨entries, hasOtherKeys⟩, hsection, h⟩ := bind_eq_ok_iff.1 h
  obtain ⟨⟨es, notices⟩, hlog, h⟩ := bind_eq_ok_iff.1 h
  cases hasOtherKeys with
  | true => cases h
  | false =>
    refine ⟨entries, es, notices, hsection, hlog, ?_⟩
    cases hname : Entries.has reservedName (dropEmptyRules es) with
    | true => simp [ofFields, hname] at h
    | false =>
      refine ⟨rfl, ?_⟩
      cases hvalues : ofValues? p.coercions env (dropEmptyRules es) with
      | some settings =>
        simp only [ofFields, hname, hvalues] at h
        cases h
        exact .inl rfl
      | none =>
        simp only [ofFields, hname, hvalues] at h
        cases h
        exact .inr rfl

/-- What is loaded of a document is settled. -/
theorem isSettled_of_ofTable {p : Platform} {env : Environment} (henv : env.HasNoSettings)
    {document : Entries} (hs : Entries.isStorable document) {loaded : Loaded}
    (h : ofTable p env document = .ok loaded) : loaded.settings.IsSettled := by
  obtain ⟨entries, es, notices, hsection, hlog, -, hvalues | hdefault⟩ := ofTable_cases h
  · have hcontent : Entries.isStorable entries := by
      refine isStorable_of_ofSection ?_ hsection
      cases hget : Entries.get? settingsSection document with
      | none => simp
      | some v => simpa using Entries.isStorable_of_get? hs hget
    have hkept : ∀ field ≠ Field.rules, ∀ t,
        Entries.get? field.name (dropEmptyRules es) = some (.text t) →
          Entries.get? field.name es = some (.text t) := by
      intro field hfield t ht
      rwa [get?_dropEmptyRules, if_neg (name_injective.ne hfield)] at ht
    refine isSettled_of_ofValues? henv ?_ ?_ ?_ hvalues
    · intro v hv
      rw [get?_dropEmptyRules, if_pos rfl, Option.filter_eq_some_iff] at hv
      have hsource : Entries.get? Field.rules.name (sanitizeTexts entries) = some v :=
        get?_of_checkLogFile hlog (by rintro rfl; simp [Value.isGiven] at hv) hv.1
      rw [get?_sanitizeTexts, if_neg (by decide)] at hsource
      exact ⟨hv.2, Entries.isStorable_of_get? hcontent hsource⟩
    · intro field hfield t ht
      have hes := hkept field (by rintro rfl; simp at hfield) t ht
      have hsource := get?_of_checkLogFile hlog (by simp) hes
      rw [get?_sanitizeTexts, if_pos hfield] at hsource
      obtain ⟨v, -, hv⟩ := Option.map_eq_some_iff.1 hsource
      exact sanitize_of_sanitizeValue hv
    · intro path hpath
      have hes := hkept .logFile (by simp) path hpath
      rw [keepsLogFile_of_checkLogFile hlog, if_pos rfl] at hes
      obtain ⟨v, -, hv⟩ := Option.map_eq_some_iff.1 hes
      exact isSafePath_of_keptLogFile hv
  · rw [hdefault, ofEnvironment_of_hasNoSettings _ henv]
    exact isSettled_standard

/-- What is loaded of the content of a file is settled. -/
theorem isSettled_of_ofBytes {p : Platform} (hformat : p.format.IsNullFree) {env : Environment}
    (henv : env.HasNoSettings) {content : ByteArray} {loaded : Loaded}
    (h : ofBytes p env content = .ok loaded) : loaded.settings.IsSettled := by
  unfold ofBytes at h
  split at h
  · unfold ofDocument at h
    split at h
    · rename_i hread
      exact isSettled_of_ofTable henv (hformat _ _ hread) h
    · cases h
      rw [ofEnvironment_of_hasNoSettings _ henv]
      exact isSettled_standard
    · cases h
  · cases h

end Settings

end CommitStandard
