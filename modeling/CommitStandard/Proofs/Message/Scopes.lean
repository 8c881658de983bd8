import Mathlib.Tactic
import CommitStandard.Proofs.Message.PaintedLine
import CommitStandard.Proofs.Message.Unrepaired
import CommitStandard.Proofs.Settings.Loading

/-!
# Scopes of reachable messages

Scopes come from lines, tables, edits and repairs, but all of them are inserted one by one, which
keeps them distinct, trimmed and not empty (`TidyScopes`). `Header.IsReachable` and
`Message.IsReachable` are what can be made and then changed by any operations. A step on a message
comes down to steps on its header (`Message.IsReachable.header`), and every step on a header keeps
its scopes tidy (`Header.IsReachable.tidyScopes`).
-/
namespace CommitStandard

/-- Distinct texts that are trimmed and not empty. -/
structure TidyScopes (scopes : List Text) : Prop where
  nodup : scopes.Nodup
  ne_nil : ∀ s ∈ scopes, s ≠ []
  trimmed : ∀ s ∈ scopes, Text.strip s = s

namespace TidyScopes

variable {scopes : List Text}

/-- Inserting texts keeps scopes tidy. -/
theorem foldl_insertScope (h : TidyScopes scopes) (values : List Text) :
    TidyScopes (values.foldl Header.insertScope scopes) := by
  obtain ⟨hnodup, hmem⟩ := @Header.foldl_insertScope_spec scopes values h.nodup h.ne_nil
  refine ⟨hnodup, fun s hs => (hmem s hs).1, fun s hs => ?_⟩
  rcases (hmem s hs).2 with hold | ⟨v, -, rfl⟩
  · exact h.trimmed s hold
  · exact Text.strip_strip v

theorem distinctScopes (values : List Text) : TidyScopes (Header.distinctScopes values) :=
  foldl_insertScope ⟨List.nodup_nil, by simp, by simp⟩ values

theorem erase (h : TidyScopes scopes) (s : Text) : TidyScopes (scopes.erase s) where
  nodup := h.nodup.erase s
  ne_nil := fun t ht => h.ne_nil t (List.mem_of_mem_erase ht)
  trimmed := fun t ht => h.trimmed t (List.mem_of_mem_erase ht)

end TidyScopes

namespace Header

/-- An operation on a header. The way scopes are joined can be changed, too. -/
inductive Action where
  | nameSpace (value : Text)
  | type (value : Text)
  | subject (value : Text)
  /-- Sets the scopes from their joined form. -/
  | scope (value : Text)
  | scopes (values : List Text)
  | addScope (value : Text)
  | removeScope (value : Text)
  | setBreaking (wanted : Bool)
  | toggleBreaking
  | options (other : HeaderOptions)
  | setPaint (fields : List HeaderField) (paint : Text → Text)
  | showPaint (fields : List HeaderField) (shown : Bool)
  /-- Takes over the styles of another header. -/
  | copyStyles (other : Header)

/-- The header after an operation, or why it is refused. -/
def Action.apply (h : Header) : Action → Except ScopeError Header
  | nameSpace value => .ok (h.setNameSpace value)
  | type value => .ok (h.setType value)
  | subject value => .ok (h.setSubject value)
  | scope value => h.setScope value
  | scopes values => .ok (h.setScopes values)
  | addScope value => .ok (h.addScope value)
  | removeScope value => .ok (h.removeScope value)
  | setBreaking wanted => .ok (h.setBreaking wanted)
  | toggleBreaking => .ok h.toggleBreaking
  | options other => .ok { h with options := other }
  | setPaint fields paint => .ok (h.setPaint fields paint)
  | showPaint fields shown => .ok (h.showPaint fields shown)
  | copyStyles other => .ok { h with styles := other.styles }

/-- The header after an operation; a refused one leaves it as it is. -/
def Action.perform (h : Header) (a : Action) : Header :=
  match a.apply h with
  | .ok k => k
  | .error _ => h

/-- The headers that are made or read, and then changed by operations. -/
inductive IsReachable : Header → Prop where
  | make (options : HeaderOptions) (nameSpace type : Text) (scopes : List Text) (subject : Text)
      (breaking : Bool) : IsReachable (.make options nameSpace type scopes subject breaking)
  | parse {options : HeaderOptions} {line : Text} {h : Header} :
      Header.parse options line = .ok h → IsReachable h
  | perform {h : Header} (a : Action) : IsReachable h → IsReachable (a.perform h)

variable {h k : Header}

theorem scopes_setBreaking (h : Header) (wanted : Bool) :
    (h.setBreaking wanted).scopes = h.scopes := by
  unfold setBreaking
  split
  · rfl
  · split <;> rfl

/-- The scopes that a text sets are inserted one by one. -/
theorem scopes_setScope {value : Text} (hk : h.setScope value = .ok k) :
    ∃ values, k.scopes = distinctScopes values := by
  unfold setScope at hk
  split at hk
  · cases hk
    exact ⟨_, rfl⟩
  · obtain ⟨values, -, hvalues⟩ := bind_eq_ok_iff.mp hk
    cases hvalues
    exact ⟨values, rfl⟩

/-- An operation keeps scopes tidy. -/
theorem tidyScopes_apply {a : Action} (ht : TidyScopes h.scopes) (hk : a.apply h = .ok k) :
    TidyScopes k.scopes := by
  cases a with
  | scope value =>
    obtain ⟨values, hvalues⟩ := scopes_setScope hk
    rw [hvalues]
    exact .distinctScopes values
  | scopes values =>
    cases hk
    exact .distinctScopes values
  | addScope value =>
    cases hk
    exact ht.foldl_insertScope [value]
  | removeScope value =>
    cases hk
    exact ht.erase _
  | setBreaking wanted =>
    cases hk
    rw [scopes_setBreaking]
    exact ht
  | toggleBreaking =>
    cases hk
    rw [toggleBreaking, scopes_setBreaking]
    exact ht
  | _ =>
    cases hk
    exact ht

namespace IsReachable

theorem tidyScopes (hr : h.IsReachable) : TidyScopes h.scopes := by
  induction hr with
  | make options nameSpace type scopes subject breaking => exact .distinctScopes scopes
  | parse hp =>
    obtain ⟨ns, type, scopes, subject, breaking, rfl, -⟩ := eq_make_of_parse hp
    exact .distinctScopes scopes
  | @perform h a _ ih =>
    unfold Action.perform
    split
    · exact tidyScopes_apply ih ‹_›
    · exact ih

variable {run : Message.Run} {engine : Engine}

theorem processField (hr : h.IsReachable) (field : HeaderField) :
    (Message.processField run engine h field).1.IsReachable := by
  unfold Message.processField
  split
  · exact hr
  · rename_i e _
    cases field with
    | nameSpace => exact hr.perform (.nameSpace e.firstValue)
    | type => exact hr.perform (.type e.firstValue)
    | scope => exact hr.perform (.scopes e.output)
    | subject => exact hr.perform (.subject e.firstValue)

theorem processFields (hr : h.IsReachable) (fields : List HeaderField) :
    (Message.processFields run engine h fields).1.IsReachable := by
  induction fields generalizing h with
  | nil => exact hr
  | cons field fields ih => exact ih (hr.processField field)

theorem processHeader (hr : h.IsReachable) {stage : Header × List Report}
    (hstage : Message.processHeader run engine h = .ok stage) : stage.1.IsReachable := by
  unfold Message.processHeader at hstage
  split at hstage
  · cases hstage
    exact hr
  · dsimp only at hstage
    split at hstage
    · cases hstage
      exact hr
    · obtain ⟨reread, hreread, hcopied⟩ := bind_eq_ok_iff.mp hstage
      cases hcopied
      exact (IsReachable.parse hreread).perform (.copyStyles h)

end IsReachable

end Header

namespace Message

/-- The messages that are made or read, and then changed by operations on them, on their headers
and on their footers, or by checking and repairing them. -/
inductive IsReachable : Message → Prop where
  | make {header : Header} (body : Text) (footers : List Footer) :
      header.IsReachable → IsReachable (.make header body footers)
  | parse {options : HeaderOptions} {s : Text} {m : Message} :
      Message.parse options s = .ok m → IsReachable m
  | ofValue {room : Nat} {options : HeaderOptions} {v : Value} {m : Message} :
      Message.ofValue room options v = .ok m → IsReachable m
  | perform {m : Message} (a : Action) : IsReachable m → IsReachable (a.perform m)
  | performHeader {m : Message} (a : Header.Action) :
      IsReachable m → IsReachable { m with header := a.perform m.header }
  | changeFooters {m : Message} (footers : List Footer) :
      IsReachable m → IsReachable { m with footers }
  | process {m : Message} {engine : Engine} {attemptFix : Bool} {files : Option ChangedFiles}
      {p : Processed} :
      IsReachable m → m.process engine attemptFix files = .ok p → IsReachable p.message

variable {m : Message}

theorem header_upsertFooter (m : Message) (token text : Text) :
    (m.upsertFooter token text).message.header = m.header := by
  unfold upsertFooter
  split <;> rfl

theorem header_toggleBreaking (m : Message) (text : Option Text) :
    (m.toggleBreaking text).header = m.header.setBreaking (!m.isBreaking) := by
  unfold toggleBreaking
  split
  · rename_i hbreaking
    rw [hbreaking]
    rfl
  · rename_i hquiet
    rw [Bool.eq_false_of_not_eq_true hquiet]
    dsimp only
    split
    · exact header_upsertFooter _ _ _
    · rfl

/-- What an edit does to the header, if it is an edit of the header. -/
def Edit.onHeader? (m : Message) : Edit → Option Header.Action
  | nameSpace value => some (.nameSpace value)
  | type value => some (.type value)
  | subject value => some (.subject value)
  | scope value => some (.scope value)
  | scopes values => some (.scopes values)
  | addScope value => some (.addScope value)
  | removeScope value => some (.removeScope value)
  | toggleBreaking _ => some (.setBreaking (!m.isBreaking))
  | _ => none

/-- An edit is an operation on the header, or leaves it as it is. -/
theorem header_perform (m : Message) (e : Edit) :
    (e.perform m).header = (e.onHeader? m).elim m.header fun a => a.perform m.header := by
  cases e with
  | scope value =>
    simp only [Edit.perform, Edit.apply, Edit.onHeader?, Option.elim_some, Header.Action.perform,
      Header.Action.apply]
    cases m.header.setScope value <;> rfl
  | footers lines =>
    simp only [Edit.perform, Edit.apply, Edit.onHeader?, Option.elim_none, setFooters]
    cases Footer.parseAll lines <;> rfl
  | upsertFooter token text => exact header_upsertFooter m token text
  | toggleBreaking text => exact header_toggleBreaking m text
  | _ => rfl

theorem exists_draft_of_ofValue {room : Nat} {options : HeaderOptions} {v : Value}
    (hm : ofValue room options v = .ok m) : ∃ d, m = ofDraft options d := by
  cases v with
  | table entries =>
    obtain ⟨scopes, -, hm⟩ := bind_eq_ok_iff.mp hm
    obtain ⟨footers, -, hm⟩ := bind_eq_ok_iff.mp hm
    obtain ⟨body, -, hm⟩ := bind_eq_ok_iff.mp hm
    obtain ⟨nameSpace, -, hm⟩ := bind_eq_ok_iff.mp hm
    obtain ⟨type, -, hm⟩ := bind_eq_ok_iff.mp hm
    obtain ⟨subject, -, hm⟩ := bind_eq_ok_iff.mp hm
    cases hm
    exact ⟨_, rfl⟩
  | _ => cases hm

/-- The header of a message has come about by operations on headers alone. -/
theorem IsReachable.header (hm : m.IsReachable) : m.header.IsReachable := by
  induction hm with
  | make body footers hh => exact hh
  | parse hp =>
    obtain ⟨header, body, footers, hh, rfl, -⟩ := eq_make_of_parse hp
    exact .parse hh
  | ofValue hv =>
    obtain ⟨d, rfl⟩ := exists_draft_of_ofValue hv
    exact .make _ _ _ _ _ _
  | @perform m a _ ih =>
    cases a with
    | edit e =>
      rw [Action.perform, header_perform]
      cases e.onHeader? m with
      | none => exact ih
      | some a => exact ih.perform a
    | restyle s =>
      cases s with
      | setPaint paint part token => exact ih.perform (.setPaint (HeaderField.named part) paint)
      | showPaint shown part token => exact ih.perform (.showPaint (HeaderField.named part) shown)
  | performHeader a _ ih => exact ih.perform a
  | changeFooters footers _ ih => exact ih
  | @process m engine attemptFix files p _ hp ih =>
    -- of a run, only the stages of the fields and of the header line touch the header
    have hrun := (@process_eq_map ⟨attemptFix, files⟩ engine m).symm.trans hp
    cases hstage : processHeader ⟨attemptFix, files⟩ engine
        (checkedHeader ⟨attemptFix, files⟩ engine m) with
    | error e =>
      rw [hstage] at hrun
      cases hrun
    | ok stage =>
      rw [hstage] at hrun
      cases hrun
      exact (ih.processFields HeaderField.all).processHeader hstage

theorem apply_scope_of_header {value : Text} {fault : ScopeError}
    (h : (Header.Action.scope value).apply m.header = .error fault) :
    (Edit.scope value).apply m = .error (.scope fault) ∧ (Edit.scope value).perform m = m := by
  have hscope : m.header.setScope value = .error fault := h
  have happly : (Edit.scope value).apply m = .error (.scope fault) := by
    rw [Edit.apply, hscope]
    rfl
  exact ⟨happly, by rw [Edit.perform, happly]⟩

end Message

/-- Every header and every message that can be reached has distinct scopes that are trimmed and
not empty. Where the delimiter is empty, scopes cannot be set from a text, and are left as they
are, unless the text is empty, which takes them all away. -/
theorem scopes_of_isReachable :
    (∀ h : Header, h.IsReachable → TidyScopes h.scopes ∧
      (h.options.scopeDelimiter = [] →
        (∀ value, value ≠ [] → (Header.Action.scope value).apply h = .error .emptyDelimiter ∧
          (Header.Action.scope value).perform h = h) ∧
        ((Header.Action.scope []).perform h).scopes = [])) ∧
      ∀ m : Message, m.IsReachable → TidyScopes m.header.scopes ∧
        (m.header.options.scopeDelimiter = [] →
          (∀ value, value ≠ [] →
            (Message.Edit.scope value).apply m = .error (.scope .emptyDelimiter) ∧
            (Message.Edit.scope value).perform m = m) ∧
          ((Message.Edit.scope []).perform m).header.scopes = []) := by
  have hrefused : ∀ h : Header, h.options.scopeDelimiter = [] → ∀ value, value ≠ [] →
      (Header.Action.scope value).apply h = .error .emptyDelimiter := by
    intro h hd value hv
    rw [Header.Action.apply, Header.setScope, if_neg (by simpa using hv), hd]
    rfl
  refine ⟨fun h hr => ⟨hr.tidyScopes, fun hd => ⟨fun value hv => ?_, rfl⟩⟩,
    fun m hm => ⟨hm.header.tidyScopes, fun hd => ⟨fun value hv => ?_, rfl⟩⟩⟩
  · have hfault := hrefused h hd value hv
    exact ⟨hfault, by rw [Header.Action.perform, hfault]⟩
  · exact Message.apply_scope_of_header (hrefused m.header hd value hv)

/-- A header with two scopes and nothing to divide them by. -/
def undividedHeader : Header :=
  .make ⟨[], []⟩ [] "feat".toList [" api".toList, [], "api ".toList, "cli".toList] "Add x".toList
    false

theorem scopes_of_isReachable_undividedHeader :
    ∃ m : Message, m.IsReachable ∧
      m.header.scopes = ["api".toList, "cli".toList, "web".toList] ∧ TidyScopes m.header.scopes ∧
      (Message.Edit.scope "lib".toList).perform m = m := by
  have hmade : undividedHeader.IsReachable := .make _ _ _ _ _ _
  have hadded : (Message.Action.perform (.make undividedHeader [] [])
      (.edit (.addScope " web".toList))).IsReachable :=
    (Message.IsReachable.make [] [] hmade).perform _
  obtain ⟨htidy, hrefused⟩ := scopes_of_isReachable.2 _ hadded
  exact ⟨_, hadded, by decide, htidy, ((hrefused rfl).1 "lib".toList (by decide)).2⟩

/-- The empty text is not refused. -/
theorem scopes_of_isReachable_emptyScope :
    ∃ h : Header, h.IsReachable ∧ h.options.scopeDelimiter = [] ∧ h.scopes = ["a".toList] ∧
      (Header.Action.scope []).apply h = .ok (h.setScopes []) ∧
      ((Header.Action.scope []).perform h).scopes = [] :=
  ⟨_, .make ⟨[], []⟩ [] [] ["a".toList] [] false, rfl, by decide, rfl, rfl⟩

end CommitStandard
