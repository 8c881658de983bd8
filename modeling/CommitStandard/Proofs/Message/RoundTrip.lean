import Mathlib.Tactic
import CommitStandard.Proofs.Header.RoundTrip
import CommitStandard.Proofs.Message.Splitting

/-!
# Reading written messages

`Message.WellFormed` describes the messages that the written form can hold: tidy
fields, a body whose paragraphs have no blank lines and do not end in footers,
and footers in their normal spelling. Such a message is read back from its
written form field by field (`parse_render`). Both sides are compared as a line
and paragraphs: `render_eq_written` brings the written form there and
`parse_written` reads it off.
-/
namespace CommitStandard.Message

/-- The written form as a line and paragraphs. -/
theorem render_eq_written {m : Message} {line : Text} {ps : List (List Text)}
    (hh : m.header.render = line) (hs : m.bodyStyle.apply m.body = m.body)
    (hf : ∀ f ∈ m.footers, f.render = f.plain) (hb : m.body = joinParagraphs ps)
    (hne : m.body = [] ↔ ps = []) :
    m.render = written line (ps ++ footerParagraphs m.footers) := by
  have hfooters :
      m.footers.map Footer.render = (footerParagraphs m.footers).map (Text.join ['\n']) := by
    rw [footerParagraphs, List.map_map]
    exact List.map_congr_left hf
  rw [render, paragraphs, written, hh, hfooters, List.map_append, hs]
  by_cases hps : ps = []
  · rw [if_pos (by simp [hne.mpr hps]), hps]
    rfl
  · have hbody : m.body ≠ [] := fun h => hps (hne.mp h)
    rw [if_neg (by simpa using hbody), hb, joinParagraphs]
    -- A joined list of paragraphs is joined on with the same blank lines.
    have hpne : ps.map (Text.join ['\n']) ≠ [] := by simpa using hps
    by_cases hfs : m.footers = []
    · rw [hfs]
      simp only [footerParagraphs, List.map_nil, List.append_nil]
      rw [Text.join_cons _ _ (by simp), Text.join_cons _ _ hpne, Text.join_singleton]
    · have hfne : (footerParagraphs m.footers).map (Text.join ['\n']) ≠ [] := by
        simpa [footerParagraphs] using hfs
      rw [Text.join_cons _ _ (by simp), Text.join_cons _ _ (by simp [hpne]),
        Text.join_append _ (by simp) hfne, Text.join_append _ hpne hfne, Text.join_singleton]

/-- A text of paragraphs without blank lines that do not end in footers. -/
def IsBodyText (s : Text) : Prop :=
  s = [] ∨ ∃ (ps : List Text) (hne : ps ≠ []), s = Text.join "\n\n".toList ps ∧
    (∀ p ∈ ps, ∀ l ∈ Text.lines p, Text.isBlankText l = false) ∧
    HasText (Text.lines (ps.getLast hne))

theorem exists_of_isBodyText {s : Text} (h : IsBodyText s) :
    ∃ ps : List (List Text), s = joinParagraphs ps ∧ (∀ p ∈ ps, p ≠ []) ∧
      (∀ p ∈ ps, ∀ l ∈ p, '\n' ∉ l ∧ Text.isBlankText l = false) ∧
      ∀ p, ps.getLast? = some p → HasText p := by
  rcases h with rfl | ⟨ps, hne, rfl, hlines, hlast⟩
  · exact ⟨[], rfl, by simp, by simp, by simp⟩
  · refine ⟨ps.map Text.lines, ?_, ?_, ?_, ?_⟩
    · have hjoin : ∀ p ∈ ps, (Text.join ['\n'] ∘ Text.lines) p = id p :=
        fun p _ => Text.join_pieces '\n' p
      rw [joinParagraphs, List.map_map, List.map_congr_left hjoin, List.map_id]
    · intro p hp
      obtain ⟨t, -, rfl⟩ := List.mem_map.mp hp
      exact Text.pieces_ne_nil '\n' t
    · intro p hp l hl
      obtain ⟨t, ht, rfl⟩ := List.mem_map.mp hp
      exact ⟨Text.notMem_of_mem_pieces hl, hlines t ht l hl⟩
    · intro p hp
      rw [List.getLast?_map, List.getLast?_eq_some_getLast hne] at hp
      rw [← Option.some.inj hp]
      exact hlast

/-- The messages that the written form can hold. -/
structure WellFormed (m : Message) : Prop where
  header : m.header.Tidy
  labelled : m.header.type ≠ [] ∨ m.header.scopes ≠ []
  body : IsBodyText m.body
  tokens : ∀ f ∈ m.footers, Footer.IsToken f.token ∧ Footer.normalizeToken f.token = f.token
  texts : ∀ f ∈ m.footers, Text.strip f.text = f.text ∧ '\n' ∉ f.text
  no_return : '\r' ∉ m.render
  /-- Paint is no part of the format. -/
  unpainted : m.render = m.unpainted.render

theorem WellFormed.tidy_footer {m : Message} (h : m.WellFormed) {f : Footer}
    (hf : f ∈ m.footers) : f.Tidy :=
  Footer.tidy_of_isToken (h.tokens f hf).1 (h.texts f hf).1 (h.texts f hf).2

theorem footers_unpainted (m : Message) :
    m.unpainted.footers = m.footers.map fun f => { f with style := f.style.withShown false } := by
  unfold unpainted showPaint restyle meansFooters
  simp

/-- The written form without paint, as a line and paragraphs. -/
theorem render_unpainted {m : Message} {ps : List (List Text)} (hb : m.body = joinParagraphs ps)
    (hne : m.body = [] ↔ ps = []) :
    m.unpainted.render = written m.header.line (ps ++ footerParagraphs m.footers) := by
  have hline : m.unpainted.header.render = m.header.line := by
    have hpaint : ∀ field t, (m.unpainted.header.styles field).apply t = t := by
      intro field t
      cases field <;> exact Style.apply_hidden _ t
    rw [Header.render_eq_line hpaint]
    rfl
  have hbody : m.unpainted.bodyStyle.apply m.unpainted.body = m.unpainted.body :=
    Style.apply_hidden _ _
  have hfooters : ∀ f ∈ m.unpainted.footers, f.render = f.plain := by
    intro f hf
    rw [footers_unpainted] at hf
    obtain ⟨g, -, rfl⟩ := List.mem_map.mp hf
    exact Style.apply_hidden _ _
  have hplain : footerParagraphs m.unpainted.footers = footerParagraphs m.footers := by
    rw [footers_unpainted]
    simp [footerParagraphs, Footer.plain]
  rw [render_eq_written hline hbody hfooters (show m.unpainted.body = joinParagraphs ps from hb)
    (show m.unpainted.body = [] ↔ ps = [] from hne), hplain]

/-- Reading undoes writing for every well-formed message. -/
theorem parse_render {m : Message} (h : m.WellFormed) :
    ∃ r, parse .standard m.render = .ok r ∧ r.header.nameSpace = m.header.nameSpace ∧
      r.header.type = m.header.type ∧ r.header.scopes = m.header.scopes ∧
      r.header.subject = m.header.subject ∧ r.header.breaking = m.header.breaking ∧
      r.body = m.body ∧
      r.footers.map (fun f => (f.token, f.text)) = m.footers.map fun f => (f.token, f.text) := by
  obtain ⟨ps, hb, hne, hlines, hlast⟩ := exists_of_isBodyText h.body
  have hlabelled : m.header.isLabelled = true := by
    have := h.labelled
    simp only [Header.isLabelled, Bool.not_and, Bool.or_eq_true, Bool.not_eq_true',
      List.isEmpty_eq_false_iff]
    exact this
  have hfooterLines := footerParagraphs_plain fun f => h.tidy_footer
  have hp : Paragraphed (ps ++ footerParagraphs m.footers) := by
    refine Paragraphed.of_filled ?_ ?_
    · intro p hmem
      rcases List.mem_append.mp hmem with hmem | hmem
      · exact hne p hmem
      · exact (hfooterLines p hmem).1
    · intro p hmem
      rcases List.mem_append.mp hmem with hmem | hmem
      · exact hlines p hmem
      · exact (hfooterLines p hmem).2
  have hempty : m.body = [] ↔ ps = [] := by
    rw [hb]
    exact (hp.sublist (List.sublist_append_left _ _)).joinParagraphs_eq_nil_iff
  have hwritten : m.render = written m.header.line (ps ++ footerParagraphs m.footers) := by
    rw [h.unpainted, render_unpainted hb hempty]
  have hunix : Text.unixLines m.render = m.render := Text.unixLines_eq_self (Or.inr h.no_return)
  rw [hwritten] at hunix
  have hreads : Footer.Reads (footerParagraphs m.footers).flatten
      (m.footers.map fun f => Footer.make f.token f.text) := by
    rw [flatten_footerParagraphs]
    refine Footer.reads_map (fun f hf => ?_) rfl
    exact (h.tidy_footer hf).parse_plain_iff.mpr ⟨(h.tokens f hf).1, rfl⟩
  have hlegible := Header.legible_of_isLabelled h.header hlabelled
  have hheader := Header.parse_line hlegible
    (show HeaderOptions.standard.scopeDelimiter = [','] from rfl)
  have hparse := parse_written hp (Header.line_ne_nil hlabelled)
    (Header.newline_notMem_line h.header) hunix hheader
  rw [splitFooters_append hlast hreads, ← hb, ← hwritten] at hparse
  refine ⟨_, hparse, rfl, rfl, rfl, rfl, rfl, rfl, ?_⟩
  show (m.footers.map fun f => Footer.make f.token f.text).map (fun f => (f.token, f.text)) = _
  rw [List.map_map]
  refine List.map_congr_left fun f hf => ?_
  show (Footer.normalizeToken f.token, Text.strip f.text) = (f.token, f.text)
  rw [(h.tokens f hf).2, (h.texts f hf).1]

/-- A message with every part: its body has a footer line that is no footer because of the line
after it, and a footer occurs twice. -/
def fullMessage : Message :=
  make ⟨"core".toList, "feat".toList, ["api".toList, "web ui".toList], "drop v1: at last".toList,
      true, .standard, fun _ => .plain⟩
    "Clients have moved.\n\nSee: issue 12\n and its thread".toList
    [⟨"Reviewed-by".toList, "Ann: twice".toList, .plain⟩,
      ⟨"Reviewed-by".toList, "Ann: twice".toList, .plain⟩,
      ⟨Footer.breakingToken, [], .plain⟩]

theorem wellFormed_fullMessage : fullMessage.WellFormed where
  header := by
    constructor
    case nameSpace_plain => simp [fullMessage, make]
    case type_word => exact List.all_eq_true.mp (by decide +kernel)
    case scopes_plain => simp [fullMessage, make]
    all_goals decide +kernel
  labelled := by decide
  body := by
    refine Or.inr ⟨["Clients have moved.".toList, "See: issue 12\n and its thread".toList], by simp,
      by decide, by decide, " and its thread".toList, by decide, ?_⟩
    intro f hf
    have hno : (Footer.parse " and its thread".toList).isOk = false := by decide +kernel
    rw [hf] at hno
    exact absurd hno (by simp [Except.isOk, Except.toBool])
  tokens := by decide +kernel
  texts := by decide +kernel
  no_return := by decide +kernel
  unpainted := by decide +kernel

theorem parse_render_fullMessage :
    fullMessage.WellFormed ∧ ∃ r, parse .standard fullMessage.render = .ok r ∧
      r.header.nameSpace = fullMessage.header.nameSpace ∧
      r.header.type = fullMessage.header.type ∧ r.header.scopes = fullMessage.header.scopes ∧
      r.header.subject = fullMessage.header.subject ∧
      r.header.breaking = fullMessage.header.breaking ∧ r.body = fullMessage.body ∧
      r.footers.map (fun f => (f.token, f.text)) =
        fullMessage.footers.map fun f => (f.token, f.text) :=
  ⟨wellFormed_fullMessage, parse_render wellFormed_fullMessage⟩

end CommitStandard.Message
