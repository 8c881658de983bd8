import Mathlib.Tactic
import CommitStandard.Message.Data
import CommitStandard.Proofs.Message.BreakingMarks

/-!
# Paint and edits

Paint is laid over a message when it is written and is no part of what it says.
`Message.unstyled` takes it off; every edit does the same to a message and to the unstyled one
(`Edit.apply_unstyled`), and a restyling does nothing to the unstyled one
(`Restyling.unstyled_apply`). So whatever edits and restylings are mixed, the table of the
message, its written form without paint and the edits that are refused are those of the edits
alone (`performAll_edits`).
-/
namespace CommitStandard

def Header.unstyled (h : Header) : Header := { h with styles := fun _ => .plain }

def Footer.unstyled (f : Footer) : Footer := { f with style := .plain }

@[simp] theorem Footer.unstyled_make (token text : Text) :
    (Footer.make token text).unstyled = Footer.make token text := rfl

@[simp] theorem Footer.hasToken_unstyled (f : Footer) (token : Text) :
    f.unstyled.hasToken token = f.hasToken token := rfl

@[simp] theorem Footer.unstyled_setText (f : Footer) (text : Text) :
    (f.setText text).unstyled = f.unstyled.setText text := rfl

theorem Footer.map_unstyled_eq_self {fs : List Footer} (h : ∀ f ∈ fs, f.style = .plain) :
    fs.map Footer.unstyled = fs := by
  conv_rhs => rw [← List.map_id fs]
  refine List.map_congr_left fun f hf => ?_
  rw [unstyled, ← h f hf]
  rfl

theorem Footer.style_of_parseAll {lines : List Text} {fs : List Footer}
    (h : Footer.parseAll lines = .ok fs) : ∀ f ∈ fs, f.style = .plain := by
  have hreads := Footer.parseAll_eq_ok_iff.mp h
  clear h
  induction hreads with
  | nil => simp
  | cons hline _ ih =>
    exact List.forall_mem_cons.mpr ⟨Footer.style_of_parse hline, ih⟩

theorem Header.setBreaking_unstyled (h : Header) (wanted : Bool) :
    h.unstyled.setBreaking wanted = (h.setBreaking wanted).unstyled := by
  obtain ⟨nameSpace, type, scopes, subject, breaking, options, styles⟩ := h
  cases wanted <;> cases breaking <;> rfl

theorem Header.setScope_unstyled (h : Header) (value : Text) :
    h.unstyled.setScope value = (h.setScope value).map Header.unstyled := by
  obtain ⟨nameSpace, type, scopes, subject, breaking, ⟨delimiter, emoji⟩, styles⟩ := h
  -- Only the empty delimiter splits nothing, and only the empty text is not split.
  cases value with
  | nil => rfl
  | cons c cs => cases delimiter <;> rfl

theorem Header.styles_setScope {h k : Header} {value : Text} (hk : h.setScope value = .ok k) :
    k.styles = h.styles := by
  unfold setScope at hk
  split at hk
  · cases hk
    rfl
  · cases hscopes : splitScopes h.options.scopeDelimiter value with
    | error fault =>
      rw [hscopes] at hk
      cases hk
    | ok scopes =>
      rw [hscopes] at hk
      cases hk
      rfl

namespace Message

def unstyled (m : Message) : Message :=
  { m with
    header := m.header.unstyled, footers := m.footers.map Footer.unstyled, bodyStyle := .plain }

/-- The styles do not show in the table of a message. -/
theorem toValue_unstyled (m : Message) : m.unstyled.toValue = m.toValue := by
  have hplain : m.unstyled.footers.map Footer.plain = m.footers.map Footer.plain := by
    rw [unstyled, List.map_map]
    rfl
  rw [toValue, hplain]
  rfl

theorem isBreaking_unstyled (m : Message) : m.unstyled.isBreaking = m.isBreaking := by
  rw [isBreaking, isBreaking, unstyled, List.any_map]
  rfl

theorem unstyled_restyle (m : Message) (part token : Option Text) (f : Style → Style) :
    (m.restyle part token f).unstyled = m.unstyled := by
  have hfooters : (m.restyle part token f).footers.map Footer.unstyled =
      m.footers.map Footer.unstyled := by
    rw [restyle, List.map_map]
    refine List.map_congr_left fun g _ => ?_
    dsimp only [Function.comp_apply]
    split <;> rfl
  rw [unstyled, hfooters]
  rfl

/-! ## Hidden paint -/

/-- No paint of the message shows when it is written. -/
structure IsHidden (m : Message) : Prop where
  header : ∀ field t, (m.header.styles field).apply t = t
  body : ∀ t, m.bodyStyle.apply t = t
  footers : ∀ f ∈ m.footers, ∀ t, f.style.apply t = t

theorem isHidden_unstyled (m : Message) : m.unstyled.IsHidden where
  header _ t := Style.apply_plain t
  body t := Style.apply_plain t
  footers f hf t := by
    obtain ⟨g, -, rfl⟩ := List.mem_map.mp hf
    exact Style.apply_plain t

theorem isHidden_unpainted (m : Message) : m.unpainted.IsHidden where
  header field t := by cases field <;> exact Style.apply_hidden _ t
  body t := Style.apply_hidden _ t
  footers f hf t := by
    obtain ⟨g, -, rfl⟩ := List.mem_map.mp hf
    exact Style.apply_hidden g.style t

/-- Paint that does not show makes no difference to the written form. -/
theorem IsHidden.render_eq {m : Message} (h : m.IsHidden) : m.render = m.unstyled.render := by
  have hheader : m.header.render = m.unstyled.header.render := by
    have hline : m.header.line = m.unstyled.header.line := rfl
    rw [Header.render_eq_line h.header, Header.render_eq_line m.isHidden_unstyled.header, hline]
  have hfooters : m.footers.map Footer.render = m.unstyled.footers.map Footer.render := by
    rw [unstyled, List.map_map]
    exact List.map_congr_left fun f hf => h.footers f hf f.plain
  rw [render, render, paragraphs, paragraphs, hheader, hfooters, h.body, m.isHidden_unstyled.body]
  rfl

theorem render_unpainted_unstyled (m : Message) : m.unpainted.render = m.unstyled.render := by
  rw [m.isHidden_unpainted.render_eq, unpainted, showPaint, unstyled_restyle]

/-! ## Edits and restylings -/

/-- Why an edit is refused. -/
inductive EditFault where
  | scope (e : ScopeError)
  | footer (e : InvalidFooter)
deriving DecidableEq, Repr

/-- An edit of what a message says. -/
inductive Edit where
  | nameSpace (value : Text)
  | type (value : Text)
  | subject (value : Text)
  /-- Sets the scopes from their joined form. -/
  | scope (value : Text)
  | scopes (values : List Text)
  | addScope (value : Text)
  | removeScope (value : Text)
  | body (value : Text)
  | footers (lines : List Text)
  | upsertFooter (token text : Text)
  | removeFooter (token : Text)
  | toggleBreaking (text : Option Text)

/-- The edited message, or why the edit is refused. -/
def Edit.apply (m : Message) : Edit → Except EditFault Message
  | nameSpace value => .ok { m with header := m.header.setNameSpace value }
  | type value => .ok { m with header := m.header.setType value }
  | subject value => .ok { m with header := m.header.setSubject value }
  | scope value =>
    ((m.header.setScope value).map fun header => { m with header }).mapError .scope
  | scopes values => .ok { m with header := m.header.setScopes values }
  | addScope value => .ok { m with header := m.header.addScope value }
  | removeScope value => .ok { m with header := m.header.removeScope value }
  | body value => .ok (m.setBody value)
  | footers lines => (m.setFooters lines).mapError .footer
  | upsertFooter token text => .ok (m.upsertFooter token text).message
  | removeFooter token => .ok (m.removeFooter token).message
  | toggleBreaking text => .ok (m.toggleBreaking text)

/-- A change of how a message is shown: parts are given paint, or their paint is shown or
hidden. -/
inductive Restyling where
  | setPaint (paint : Text → Text) (part token : Option Text)
  | showPaint (shown : Bool) (part token : Option Text)

def Restyling.apply (m : Message) : Restyling → Message
  | setPaint paint part token => m.setPaint paint part token
  | showPaint shown part token => m.showPaint shown part token

/-- A restyling leaves what the message says as it is. -/
theorem Restyling.unstyled_apply (m : Message) (s : Restyling) :
    (s.apply m).unstyled = m.unstyled := by
  cases s with
  | setPaint paint part token => exact m.unstyled_restyle part token _
  | showPaint shown part token => exact m.unstyled_restyle part token _

theorem footer?_unstyled (m : Message) (token : Text) :
    m.unstyled.footer? token = (m.footer? token).map Footer.unstyled := by
  rw [footer?, footer?, unstyled, List.find?_map]
  rfl

theorem updateFirst_map_unstyled (token text : Text) (fs : List Footer) :
    updateFirst token (·.setText text) (fs.map Footer.unstyled) =
      (updateFirst token (·.setText text) fs).map Footer.unstyled := by
  induction fs with
  | nil => rfl
  | cons f fs ih =>
    rw [List.map_cons, updateFirst, updateFirst, Footer.hasToken_unstyled, ih]
    split <;> rfl

theorem upsertFooter_unstyled (m : Message) (token text : Text) :
    (m.unstyled.upsertFooter token text).message =
      (m.upsertFooter token text).message.unstyled := by
  unfold upsertFooter
  rw [footer?_unstyled]
  cases m.footer? token with
  | none =>
    simp only [Option.map_none, unstyled, List.map_append, List.map_singleton, Footer.unstyled_make]
  | some f =>
    simp only [Option.map_some, unstyled, updateFirst_map_unstyled]

theorem removeFooter_unstyled (m : Message) (token : Text) :
    (m.unstyled.removeFooter token).message = (m.removeFooter token).message.unstyled := by
  simp only [removeFooter, unstyled, List.eraseP_map]
  rfl

theorem setFooters_unstyled (m : Message) (lines : List Text) :
    m.unstyled.setFooters lines = (m.setFooters lines).map unstyled := by
  unfold setFooters
  cases h : Footer.parseAll lines with
  | error e => rfl
  | ok fs =>
    simp only [Except.map, unstyled, Footer.map_unstyled_eq_self (Footer.style_of_parseAll h)]

theorem toggleBreaking_unstyled (m : Message) (text : Option Text) :
    m.unstyled.toggleBreaking text = (m.toggleBreaking text).unstyled := by
  unfold toggleBreaking
  rw [isBreaking_unstyled]
  by_cases hbreaking : m.isBreaking = true
  · rw [if_pos hbreaking, if_pos hbreaking]
    simp only [unstyled, Header.setBreaking_unstyled, List.filter_map]
    rfl
  · rw [if_neg hbreaking, if_neg hbreaking]
    have hmarked : ∀ given, { m.unstyled with
        header := m.unstyled.header.setBreaking true, breakingText := given } =
          Message.unstyled
            { m with header := m.header.setBreaking true, breakingText := given } := by
      intro given
      simp only [unstyled, Header.setBreaking_unstyled]
    simp only [hmarked, show m.unstyled.breakingText = m.breakingText from rfl]
    split
    · exact upsertFooter_unstyled _ _ _
    · rfl

/-- An edit does the same to a message and to the unstyled one. -/
theorem Edit.apply_unstyled (m : Message) (e : Edit) :
    e.apply m.unstyled = (e.apply m).map unstyled := by
  cases e with
  | scope value =>
    simp only [apply, show m.unstyled.header = m.header.unstyled from rfl, Header.setScope_unstyled]
    cases m.header.setScope value <;> rfl
  | footers lines =>
    simp only [apply, setFooters_unstyled]
    cases m.setFooters lines <;> rfl
  | upsertFooter token text => exact congrArg Except.ok (upsertFooter_unstyled m token text)
  | removeFooter token => exact congrArg Except.ok (removeFooter_unstyled m token)
  | toggleBreaking text => exact congrArg Except.ok (toggleBreaking_unstyled m text)
  | _ => rfl

/-! ## Sequences -/

/-- The message after an edit; a refused edit leaves it as it is. -/
def Edit.perform (m : Message) (e : Edit) : Message :=
  match e.apply m with
  | .ok r => r
  | .error _ => m

/-- Why an edit of the message would be refused, if it would. -/
def Edit.fault? (m : Message) (e : Edit) : Option EditFault :=
  match e.apply m with
  | .ok _ => none
  | .error fault => some fault

theorem Edit.perform_unstyled (m : Message) (e : Edit) :
    e.perform m.unstyled = (e.perform m).unstyled := by
  rw [perform, perform, apply_unstyled]
  cases e.apply m <;> rfl

theorem Edit.fault?_unstyled (m : Message) (e : Edit) : e.fault? m.unstyled = e.fault? m := by
  rw [fault?, fault?, apply_unstyled]
  cases e.apply m <;> rfl

inductive Action where
  | edit (e : Edit)
  | restyle (s : Restyling)

def Action.perform (m : Message) : Action → Message
  | edit e => e.perform m
  | restyle s => s.apply m

def editAll (m : Message) (es : List Edit) : Message := es.foldl Edit.perform m

def performAll (m : Message) (actions : List Action) : Message := actions.foldl Action.perform m

def edits (actions : List Action) : List Edit :=
  actions.filterMap fun
    | .edit e => some e
    | .restyle _ => none

theorem editAll_unstyled (m : Message) (es : List Edit) :
    (editAll m es).unstyled = editAll m.unstyled es := by
  induction es generalizing m with
  | nil => rfl
  | cons e es ih => rw [editAll, List.foldl_cons, ← editAll, ih, ← Edit.perform_unstyled]; rfl

/-- Without paint, actions come down to the edits among them. -/
theorem performAll_unstyled (m : Message) (actions : List Action) :
    (performAll m actions).unstyled = (editAll m (edits actions)).unstyled := by
  rw [editAll_unstyled]
  induction actions generalizing m with
  | nil => rfl
  | cons a actions ih =>
    rw [performAll, List.foldl_cons, ← performAll, ih]
    cases a with
    | edit e => rw [Action.perform, ← Edit.perform_unstyled]; rfl
    | restyle s => rw [Action.perform, Restyling.unstyled_apply]; rfl

/-! ## Edits add no paint that shows -/

theorem IsHidden.of_footers {m r : Message} (h : m.IsHidden)
    (hheader : r.header.styles = m.header.styles) (hbody : r.bodyStyle = m.bodyStyle)
    (hfooters : ∀ f ∈ r.footers, f.style = .plain ∨ ∃ g ∈ m.footers, f.style = g.style) :
    r.IsHidden where
  header field t := by rw [hheader, h.header]
  body t := by rw [hbody, h.body]
  footers f hf t := by
    obtain hplain | ⟨g, hg, hstyle⟩ := hfooters f hf
    · rw [hplain, Style.apply_plain]
    · rw [hstyle, h.footers g hg]

theorem exists_of_mem_updateFirst {token text : Text} {f : Footer} {fs : List Footer}
    (hf : f ∈ updateFirst token (·.setText text) fs) : ∃ g ∈ fs, f.style = g.style := by
  induction fs with
  | nil => cases hf
  | cons g fs ih =>
    rw [updateFirst] at hf
    split at hf
    · obtain rfl | hf := List.mem_cons.mp hf
      · exact ⟨g, List.mem_cons_self, rfl⟩
      · exact ⟨f, List.mem_cons_of_mem g hf, rfl⟩
    · obtain rfl | hf := List.mem_cons.mp hf
      · exact ⟨f, List.mem_cons_self, rfl⟩
      · obtain ⟨k, hk, hstyle⟩ := ih hf
        exact ⟨k, List.mem_cons_of_mem g hk, hstyle⟩

theorem IsHidden.upsertFooter {m : Message} (h : m.IsHidden) (token text : Text) :
    (m.upsertFooter token text).message.IsHidden := by
  unfold Message.upsertFooter
  cases m.footer? token with
  | some f => exact h.of_footers rfl rfl fun g hg => .inr (exists_of_mem_updateFirst hg)
  | none =>
    refine h.of_footers rfl rfl fun g hg => ?_
    obtain hg | hg := List.mem_append.mp hg
    · exact .inr ⟨g, hg, rfl⟩
    · rw [List.mem_singleton.mp hg]
      exact .inl rfl

theorem IsHidden.toggleBreaking {m : Message} (h : m.IsHidden) (text : Option Text) :
    (m.toggleBreaking text).IsHidden := by
  unfold Message.toggleBreaking
  split
  · refine h.of_footers (Header.styles_setBreaking _ _) rfl fun f hf => .inr ⟨f, ?_, rfl⟩
    exact (List.mem_filter.mp hf).1
  · have hmarked : ∀ given, IsHidden { m with
        header := m.header.setBreaking true, breakingText := given } := fun given =>
      h.of_footers (Header.styles_setBreaking _ _) rfl fun f hf => .inr ⟨f, hf, rfl⟩
    dsimp only
    split
    · exact (hmarked _).upsertFooter _ _
    · exact hmarked _

theorem IsHidden.apply {m r : Message} (h : m.IsHidden) {e : Edit} (he : e.apply m = .ok r) :
    r.IsHidden := by
  have hsame : ∀ f ∈ m.footers, f.style = .plain ∨ ∃ g ∈ m.footers, f.style = g.style :=
    fun f hf => .inr ⟨f, hf, rfl⟩
  cases e with
  | scope value =>
    simp only [Edit.apply] at he
    cases hscope : m.header.setScope value with
    | error fault =>
      rw [hscope] at he
      cases he
    | ok header =>
      rw [hscope] at he
      cases he
      exact h.of_footers (Header.styles_setScope hscope) rfl hsame
  | footers lines =>
    simp only [Edit.apply, Message.setFooters] at he
    cases hfooters : Footer.parseAll lines with
    | error fault =>
      rw [hfooters] at he
      cases he
    | ok fs =>
      rw [hfooters] at he
      cases he
      exact h.of_footers rfl rfl fun f hf => .inl (Footer.style_of_parseAll hfooters f hf)
  | upsertFooter token text =>
    cases he
    exact h.upsertFooter token text
  | removeFooter token =>
    cases he
    exact h.of_footers rfl rfl fun f hf => .inr ⟨f, List.mem_of_mem_eraseP hf, rfl⟩
  | toggleBreaking text =>
    cases he
    exact h.toggleBreaking text
  | _ =>
    cases he
    exact h.of_footers rfl rfl hsame

theorem IsHidden.editAll {m : Message} (h : m.IsHidden) (es : List Edit) :
    (editAll m es).IsHidden := by
  refine List.foldlRecOn (motive := IsHidden) es Edit.perform h fun k hk e _ => ?_
  unfold Edit.perform
  split
  · exact hk.apply ‹_›
  · exact hk

/-- Paint can be taken off again. Whatever edits and restylings are mixed, without paint the
message is written as after the edits alone (just as they leave it, where no paint showed at the
start), and all the way it has the same table and refuses the same edits. -/
theorem performAll_edits (m : Message) (actions : List Action) :
    (performAll m actions).unpainted.render = (editAll m (edits actions)).unpainted.render ∧
      (m.IsHidden →
        (performAll m actions).unpainted.render = (editAll m (edits actions)).render) ∧
      ∀ before, before <+: actions →
        (performAll m before).toValue = (editAll m (edits before)).toValue ∧
          ∀ e : Edit, e.fault? (performAll m before) = e.fault? (editAll m (edits before)) := by
  refine ⟨?_, fun h => ?_, fun before _ => ⟨?_, fun e => ?_⟩⟩
  · rw [render_unpainted_unstyled, render_unpainted_unstyled, performAll_unstyled]
  · rw [render_unpainted_unstyled, (h.editAll _).render_eq, performAll_unstyled]
  · rw [← toValue_unstyled, performAll_unstyled, toValue_unstyled]
  · rw [← Edit.fault?_unstyled, performAll_unstyled, Edit.fault?_unstyled]

/-- Edits between restylings that paint every part with stars and hide those of one footer. -/
def starredActions : List Action :=
  [.restyle (.setPaint (fun t => '*' :: (t ++ ['*'])) none none),
   .edit (.addScope "web".toList),
   .restyle (.showPaint true none none),
   .edit (.upsertFooter "reviewed by".toList "Bob".toList),
   .edit (.scope "cli,api".toList),
   .restyle (.showPaint false (some Part.footer.name) (some "reviewed-by".toList)),
   .edit (.footers ["no footer".toList]),
   .edit (.toggleBreaking (some "Use v2".toList))]

theorem performAll_edits_starredActions :
    quietMessage.IsHidden ∧
      (performAll quietMessage starredActions).unpainted.render =
        (editAll quietMessage (edits starredActions)).render ∧
      (performAll quietMessage starredActions).render ≠
        (performAll quietMessage starredActions).unpainted.render := by
  have hhidden : quietMessage.IsHidden := quietMessage.isHidden_unstyled
  exact ⟨hhidden, (performAll_edits quietMessage starredActions).2.1 hhidden, by decide +kernel⟩

end Message

end CommitStandard
