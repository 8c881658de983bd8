import Mathlib.Tactic
import CommitStandard.Proofs.Lint.Repair
import CommitStandard.Proofs.Message.Repaired

/-!
# Reading a repaired message back

A repaired message is written to a file, and what is read of that file without its
comment lines is meant to be the message again. `Message.IsRetained` says when the
written form keeps the body and the footers: it begins with a header, none of its
lines is a comment or loses a carriage return, the body falls into paragraphs that
do not end in footers, and every footer is read as it is. All of this is needed as
soon as there is a body or a footer (`IsTidy.reread_iff`), because every line that
is left out or taken for the header is missing from the count of those that are
read.
-/
namespace CommitStandard

open Text (filled)

/-- A text without comment lines is read as it is. -/
theorem stripComments_eq_self {s : Text} (h : ∀ l ∈ Text.lines s, isComment l = false) :
    stripComments s = s := by
  have hmark : (Text.lines s).any isScissors = false := by
    rw [List.any_eq_false]
    intro l hl
    rw [isScissors_eq_false (h l hl)]
    simp
  have hkept : keptLines (Text.lines s) = Text.lines s := by
    rw [keptLines, linesAboveScissors, hmark, if_neg (by simp), List.filter_eq_self]
    intro l hl
    rw [h l hl]
    rfl
  rw [stripComments_eq, hkept, Text.join_pieces]

/-- The filled lines that are read are among those that are no comments. -/
theorem filled_keptLines_sublist (ls : List Text) :
    (filled (keptLines ls)).Sublist ((filled ls).filter fun l => !isComment l) := by
  have habove : (filled (linesAboveScissors ls)).Sublist (filled ls) := by
    unfold linesAboveScissors
    split
    · have hbefore : (ls.takeWhile fun l => !isScissors l).Sublist ls := List.takeWhile_sublist _
      rw [filled, List.filter_append,
        show List.filter (fun l : Text => !l.isEmpty) [[]] = [] from rfl, List.append_nil]
      exact hbefore.filter _
    · exact List.Sublist.refl _
  have hcomm : filled (keptLines ls) =
      (filled (linesAboveScissors ls)).filter fun l => !isComment l := by
    rw [filled, filled, keptLines, List.filter_filter, List.filter_filter]
    simp only [Bool.and_comm]
  rw [hcomm]
  exact habove.filter _

/-- Where no filled line is missing there are no comments. -/
theorem isComment_of_length_le {ls : List Text}
    (h : (filled ls).length ≤ (filled (keptLines ls)).length) :
    ∀ l ∈ ls, isComment l = false := by
  have hle := (filled_keptLines_sublist ls).length_le
  have hall := List.length_filter_eq_length_iff.mp
    (Nat.le_antisymm (List.length_filter_le _ (filled ls)) (h.trans hle))
  intro l hl
  by_cases h0 : l = []
  · rw [h0]
    rfl
  · have := hall l (List.mem_filter.mpr ⟨hl, by simpa using h0⟩)
    simpa using this

theorem filled_lines_stripComments (s : Text) :
    filled (Text.lines (stripComments s)) = filled (keptLines (Text.lines s)) := by
  have hplain : ∀ l ∈ keptLines (Text.lines s), '\n' ∉ l := by
    intro l hl
    have hmem := (List.mem_filter.mp hl).1
    unfold linesAboveScissors at hmem
    split at hmem
    · rcases List.mem_append.mp hmem with hmem | hmem
      · exact Text.notMem_of_mem_pieces ((List.takeWhile_sublist _).subset hmem)
      · rw [List.mem_singleton.mp hmem]
        simp
    · exact Text.notMem_of_mem_pieces hmem
  rw [stripComments_eq]
  by_cases hne : keptLines (Text.lines s) = []
  · rw [hne]
    rfl
  · rw [Text.lines, Text.pieces_join hplain hne]

namespace Header

variable {h : Header}

theorem Tidy.restyle (ht : h.Tidy) (fields : List HeaderField) (f : Style → Style) :
    (h.restyle fields f).Tidy :=
  { ht with }

end Header

namespace Message

variable {m r : Message}

/-- The written form without paint, as a line and paragraphs. -/
theorem render_unpainted_eq (m : Message) :
    m.unpainted.render =
      written m.header.line (bodyParagraphs m.body ++ footerParagraphs m.footers) :=
  render_unpainted (joinParagraphs_bodyParagraphs m.body).symm bodyParagraphs_eq_nil_iff.symm

/-- A message whose header and footers are as reading makes them. -/
structure IsTidy (m : Message) : Prop where
  header : m.header.Tidy
  footers : ∀ f ∈ m.footers, f.Tidy

def entries (m : Message) : List (Text × Text) := m.footers.map fun f => (f.token, f.text)

theorem IsTidy.restyle (h : m.IsTidy) (part token : Option Text) (f : Style → Style) :
    (m.restyle part token f).IsTidy where
  header := h.header.restyle _ f
  footers g hg := by
    obtain ⟨k, hk, rfl⟩ := List.mem_map.mp hg
    have ht := h.footers k hk
    split
    · exact ⟨ht.token_plain, ht.text_trimmed, ht.text_line⟩
    · exact ht

theorem IsTidy.paintErrors (h : m.IsTidy) (paint : Text → Text) (reports : List Report) :
    (Linter.paintErrors paint m reports).IsTidy := by
  refine List.foldlRecOn (motive := IsTidy) _ _ (h.restyle none none _) fun k hk r _ => ?_
  exact hk.restyle (some r.type) r.filter _

/-- A message that is read back from its written form. -/
structure IsRetained (m : Message) : Prop where
  headed : m.header.line ≠ []
  /-- No line is left out as a comment. -/
  kept : ∀ l ∈ Text.lines m.unpainted.render, isComment l = false
  /-- No line loses a carriage return. -/
  unix : Text.unixLines m.unpainted.render = m.unpainted.render
  /-- The body falls into paragraphs that end before the footers. -/
  body : ∃ ps, m.body = joinParagraphs ps ∧ Paragraphed (ps ++ footerParagraphs m.footers) ∧
    ∀ p, ps.getLast? = some p → HasText p
  footers : ∀ f ∈ m.footers, f.isReadable = true ∧ Footer.normalizeToken f.token = f.token

theorem footerParagraphs_eq_of_entries (h : r.entries = m.entries) :
    footerParagraphs r.footers = footerParagraphs m.footers := by
  have hplain : ∀ k : Message, footerParagraphs k.footers =
      k.entries.map fun e => [(⟨e.1, e.2, .plain⟩ : Footer).plain] := by
    intro k
    rw [entries, List.map_map]
    rfl
  rw [hplain, hplain, h]

section Written

variable {ps : List (List Text)}

theorem render_eq_of_body (hb : m.body = joinParagraphs ps)
    (hp : Paragraphed (ps ++ footerParagraphs m.footers)) :
    m.unpainted.render = written m.header.line (ps ++ footerParagraphs m.footers) := by
  refine render_unpainted hb ?_
  rw [hb]
  exact (hp.sublist (List.sublist_append_left _ _)).joinParagraphs_eq_nil_iff

/-- What is read of a written message that loses no line. -/
theorem IsTidy.parse_written (h : m.IsTidy) (hb : m.body = joinParagraphs ps)
    (hp : Paragraphed (ps ++ footerParagraphs m.footers))
    (hlast : ∀ p, ps.getLast? = some p → HasText p) (hl : m.header.line ≠ [])
    (hu : Text.unixLines m.unpainted.render = m.unpainted.render) :
    ∃ k, parse .standard m.unpainted.render = .ok (make k
      (joinParagraphs (ps ++ footerParagraphs (m.footers.rdropWhile Footer.isReadable)))
      ((m.footers.rtakeWhile Footer.isReadable).map fun f => Footer.make f.token f.text)) := by
  have hn := Header.newline_notMem_line h.header
  obtain ⟨k, hk⟩ := Header.exists_parse_standard hn
  have hrender := render_eq_of_body hb hp
  have hparse := Message.parse_written hp hl hn (by rw [← hrender, hu]) hk
  rw [splitFooters_append_footers h.footers hlast] at hparse
  exact ⟨k, hrender ▸ hparse⟩

/-- A retained message is read back. -/
theorem IsTidy.reread_of_isRetained (h : m.IsTidy) (hm : m.IsRetained)
    (hr : parse .standard (stripComments m.unpainted.render) = .ok r) :
    r.body = m.body ∧ r.entries = m.entries := by
  obtain ⟨ps, hb, hp, hlast⟩ := hm.body
  obtain ⟨k, hk⟩ := h.parse_written hb hp hlast hm.headed hm.unix
  rw [stripComments_eq_self hm.kept, hk, Except.ok.injEq] at hr
  have hall : m.footers.rtakeWhile Footer.isReadable = m.footers :=
    List.rtakeWhile_eq_self_iff.mpr fun f hf => (hm.footers f hf).1
  have hnone : m.footers.rdropWhile Footer.isReadable = [] :=
    List.rdropWhile_eq_nil_iff.mpr fun f hf => (hm.footers f hf).1
  rw [hall, hnone] at hr
  subst hr
  refine ⟨?_, ?_⟩
  · rw [hb]
    show joinParagraphs (ps ++ []) = _
    rw [List.append_nil]
  · show (m.footers.map fun f => Footer.make f.token f.text).map _ = _
    rw [entries, List.map_map]
    refine List.map_congr_left fun f hf => ?_
    show (Footer.normalizeToken f.token, Text.strip f.text) = (f.token, f.text)
    rw [(hm.footers f hf).2, (h.footers f hf).text_trimmed]

/-- No line of a message with a body or a footer is missing if it is read back. -/
theorem IsTidy.kept_of_reread (h : m.IsTidy) (hp : Paragraphed ps) (hne : ps ≠ [])
    (hrender : m.unpainted.render = written m.header.line ps)
    (hlength : ps.flatten.length ≤
      (filled (messageLines (stripComments m.unpainted.render)).tail).length) :
    m.header.line ≠ [] ∧ ∀ l ∈ Text.lines m.unpainted.render, isComment l = false := by
  have hpos := hp.length_flatten_pos hne
  have hlt := length_filled_tail_lt (lt_of_lt_of_le hpos hlength)
  have hlines := filled_lines_written hp (Header.newline_notMem_line h.header)
  rw [← hrender] at hlines
  have hkept := (filled_keptLines_sublist (Text.lines m.unpainted.render)).trans
    List.filter_sublist
  have hle := hkept.length_le
  rw [filled_lines_stripComments] at hlt
  have htotal := congrArg List.length hlines
  rw [List.length_append] at htotal
  have hone : (filled [m.header.line]).length ≤ 1 := List.length_filter_le _ _
  refine ⟨?_, isComment_of_length_le (by omega)⟩
  intro h0
  rw [h0, show filled [[]] = [] from rfl] at htotal
  simp only [List.length_nil] at htotal
  omega

end Written

/-- A message that is read back and has a body or a footer is retained. -/
theorem IsTidy.isRetained_of_reread (h : m.IsTidy)
    (hr : parse .standard (stripComments m.unpainted.render) = .ok r)
    (hbody : r.body = m.body) (hentries : r.entries = m.entries)
    (hne : ¬(m.body = [] ∧ m.footers = [])) : m.IsRetained := by
  obtain ⟨ps, hread, hlength, hreturns⟩ := isRead_of_parse hr
  have hfooters := footerParagraphs_eq_of_entries hentries
  have hb : m.body = joinParagraphs ps := hbody.symm.trans hread.body
  have hp : Paragraphed (ps ++ footerParagraphs m.footers) := hfooters ▸ hread.paragraphed
  rw [hfooters] at hlength hreturns
  have hrender := render_eq_of_body hb hp
  have hfilled : ps ++ footerParagraphs m.footers ≠ [] := by
    intro h0
    obtain ⟨rfl, hnone⟩ := List.append_eq_nil_iff.mp h0
    exact hne ⟨hb, by simpa [footerParagraphs] using hnone⟩
  obtain ⟨hheaded, hkept⟩ := h.kept_of_reread hp hfilled hrender hlength
  rw [stripComments_eq_self hkept, hrender] at hreturns
  have hunix := unixLines_written hp (Header.newline_notMem_line h.header) hheaded
    (Header.getLast?_line_ne h.header) hreturns
  rw [← hrender] at hunix
  -- Now that nothing is lost, what was read is what the paragraphs are split into.
  obtain ⟨k, hk⟩ := h.parse_written hb hp hread.last hheaded hunix
  rw [stripComments_eq_self hkept, hk, Except.ok.injEq] at hr
  have hread' : (m.footers.rtakeWhile Footer.isReadable).map
      (fun f => (Footer.normalizeToken f.token, Text.strip f.text)) =
      m.footers.map fun f => (f.token, f.text) := by
    rw [← hr] at hentries
    refine Eq.trans ?_ hentries
    show _ =
      ((m.footers.rtakeWhile Footer.isReadable).map fun f => Footer.make f.token f.text).map _
    rw [List.map_map]
    rfl
  have hall : m.footers.rtakeWhile Footer.isReadable = m.footers := by
    refine (List.rtakeWhile_suffix _ _).eq_of_length ?_
    simpa using congrArg List.length hread'
  rw [hall, List.map_inj_left] at hread'
  refine ⟨hheaded, hkept, hunix, ⟨ps, hb, hp, hread.last⟩, fun f hf => ⟨?_, ?_⟩⟩
  · exact List.rtakeWhile_eq_self_iff.mp hall f hf
  · exact congrArg Prod.fst (hread' f hf)

/-- A header alone has no body and no footers, and none are read. -/
theorem IsTidy.reread_of_nil (h : m.IsTidy) (hb : m.body = []) (hf : m.footers = [])
    (hr : parse .standard (stripComments m.unpainted.render) = .ok r) :
    r.body = [] ∧ r.entries = [] := by
  obtain ⟨ps, hread, hlength, -⟩ := isRead_of_parse hr
  have hlines : Text.lines m.unpainted.render = [m.header.line] := by
    rw [render_unpainted_eq, hb, hf]
    exact lines_written (by simp [bodyParagraphs, footerParagraphs])
      (by simp [bodyParagraphs, footerParagraphs]) (Header.newline_notMem_line h.header)
  have hone : (filled (Text.lines (stripComments m.unpainted.render))).length ≤ 1 := by
    rw [filled_lines_stripComments, hlines]
    have hsub : (filled (keptLines [m.header.line])).Sublist [m.header.line] :=
      (filled_keptLines_sublist _).trans (List.filter_sublist.trans List.filter_sublist)
    exact hsub.length_le
  have hnone : ps ++ footerParagraphs r.footers = [] := by
    by_contra hne
    have hpos := hread.paragraphed.length_flatten_pos hne
    have := length_filled_tail_lt (lt_of_lt_of_le hpos hlength)
    omega
  obtain ⟨rfl, hfooters⟩ := List.append_eq_nil_iff.mp hnone
  have hnil : r.footers = [] := by simpa [footerParagraphs] using hfooters
  exact ⟨hread.body, by rw [entries, hnil]; rfl⟩

/-- The body and the footers of a message are read back from its written form exactly if it is
retained, or has neither. -/
theorem IsTidy.reread_iff (h : m.IsTidy)
    (hr : parse .standard (stripComments m.unpainted.render) = .ok r) :
    r.body = m.body ∧ r.entries = m.entries ↔
      m.body = [] ∧ m.footers = [] ∨ m.IsRetained := by
  constructor
  · rintro ⟨hbody, hentries⟩
    by_cases hne : m.body = [] ∧ m.footers = []
    · exact Or.inl hne
    · exact Or.inr (h.isRetained_of_reread hr hbody hentries hne)
  · rintro (⟨hb, hf⟩ | hm)
    · obtain ⟨hbody, hentries⟩ := h.reread_of_nil hb hf hr
      rw [hbody, hb, hentries, entries, hf]
      exact ⟨rfl, rfl⟩
    · exact h.reread_of_isRetained hm hr

end Message

namespace Linter

open Message (IsTidy)

variable {s : Submission} {r : LintResult}

/-- What a repair leaves, painted or not, has a header and footers as reading makes them. -/
theorem exists_lint_isTidy (paint : Option (Text → Text)) (s : Submission) :
    ∃ r, lint ⟨Engine.standard, .standard, paint⟩ s true = .ok r ∧ r.message.IsTidy := by
  obtain ⟨m, hm⟩ := Message.exists_parse (stripComments s.text)
  obtain ⟨ps, hread, -, -⟩ := Message.isRead_of_parse hm
  obtain ⟨p, subject, body, hp, hmessage, hline⟩ := m.process_standard_true s.files
  have htype : Text.strip m.header.type = m.header.type :=
    Text.strip_eq_self_of_forall fun c hc => Text.isBlank_of_isWord (hread.tidy.type_word c hc)
  have htidy : p.message.IsTidy := by
    have hsame : m.header.setType m.header.type = m.header := by
      rw [Header.setType, htype]
    rw [hmessage, hsame]
    exact ⟨hread.tidy.setSubject fun hn => hread.tidy.subject_line (hline hn), hread.tidy_footer⟩
  cases paint with
  | none => exact ⟨_, lint_standard hm hp, htidy⟩
  | some paint =>
    refine ⟨⟨s.source, paintErrors paint p.message p.reports, p.valid, p.reports⟩, ?_,
      htidy.paintErrors paint p.reports⟩
    simp only [lint, hm, hp, bind, Except.bind]
    rfl

/-- A repaired message is written without paint and read without its comment lines. Its body and
its footers are read back exactly if the written form retains them. -/
theorem reread_repaired_iff (paint : Option (Text → Text)) (s : Submission) :
    ∃ r, lint ⟨Engine.standard, .standard, paint⟩ s true = .ok r ∧
      ∃ m, Message.parse .standard (stripComments r.message.unpainted.render) = .ok m ∧
        (m.body = r.message.body ∧ m.entries = r.message.entries ↔
          r.message.body = [] ∧ r.message.footers = [] ∨ r.message.IsRetained) := by
  obtain ⟨r, hr, htidy⟩ := exists_lint_isTidy paint s
  obtain ⟨m, hm⟩ := Message.exists_parse (stripComments r.message.unpainted.render)
  exact ⟨r, hr, m, hm, htidy.reread_iff hm⟩

/-- A body whose only line is too long, with the number of an issue where it is broken. -/
def issueSubmission : Submission :=
  ⟨"message".toList, ("feat: Add parser\n\nThe old reader went through the header twice, " ++
    "which was slow, see also #12 for more").toList, none⟩

/-- What a repair leaves of the body, and what is read of it again. -/
def bodies (s : Submission) : Option (Text × Text) :=
  (standard.lint s true).toOption.bind fun r =>
    (Message.parse .standard (stripComments r.message.unpainted.render)).toOption.map fun m =>
      (r.message.body, m.body)

theorem exists_of_bodies {s : Submission} {left read : Text} (h : bodies s = some (left, read)) :
    ∃ r, standard.lint s true = .ok r ∧ r.message.body = left ∧
      ∃ m, Message.parse .standard (stripComments r.message.unpainted.render) = .ok m ∧
        m.body = read := by
  obtain ⟨r, hr, -⟩ := exists_lint_isTidy none s
  obtain ⟨m, hm⟩ := Message.exists_parse (stripComments r.message.unpainted.render)
  have hlint : standard.lint s true = .ok r := hr
  simp only [bodies, hlint, hm, Except.toOption, Option.bind_some, Option.map_some,
    Option.some.injEq, Prod.mk.injEq] at h
  exact ⟨r, hlint, h.1, m, hm, h.2⟩

/-- Wrapping begins a line with the number of the issue, which is a comment when it is read. -/
theorem reread_drops_wrappedLine :
    ∃ r, standard.lint issueSubmission true = .ok r ∧
      ∃ m, Message.parse .standard (stripComments r.message.unpainted.render) = .ok m ∧
        m.body = "The old reader went through the header twice, which was slow, see also".toList ∧
        r.message.body = m.body ++ "\n#12 for more".toList ∧ m.body ≠ r.message.body := by
  have hbodies : bodies issueSubmission = some
      ("The old reader went through the header twice, which was slow, see also".toList ++
        "\n#12 for more".toList,
      "The old reader went through the header twice, which was slow, see also".toList) := by
    decide +kernel
  obtain ⟨r, hr, hleft, m, hm, hread⟩ := exists_of_bodies hbodies
  have hlost : r.message.body = m.body ++ "\n#12 for more".toList := by rw [hleft, hread]
  refine ⟨r, hr, m, hm, hread, hlost, fun hsame => ?_⟩
  have hlength := congrArg List.length (hsame.trans hlost)
  simp at hlength

end Linter

end CommitStandard
