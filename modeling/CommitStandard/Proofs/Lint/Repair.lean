import Mathlib.Tactic
import CommitStandard.Proofs.Lint.Rereading
import CommitStandard.Proofs.Message.Standard

/-!
# Linting a repaired message again

A repair under the default rules is meant to give a message that the rules accept.
The repaired message is written and read before it is linted again. Its type is
still one of the known ones. Its subject can have become too short, and footers
that are not read as footers again are lines of the body, which can be too long.
These are the only two ways in which a valid repair is rejected
(`relint_valid_iff`).
-/
namespace CommitStandard

/-- The linter with the default rules. -/
def Linter.standard : Linter := ⟨Engine.standard, .standard, none⟩

theorem Header.Tidy.setSubject {h : Header} (ht : h.Tidy) {value : Text} (hn : '\n' ∉ value) :
    (h.setSubject value).Tidy :=
  { ht with
    subject_trimmed := Text.strip_strip value
    subject_line := fun hc => hn (Text.mem_of_mem_strip hc) }

namespace Linter

variable {s : Submission} {m : Message} {p : Processed} {fix : Bool}

theorem lint_standard (hm : Message.parse .standard (stripComments s.text) = .ok m)
    (hp : m.process Engine.standard fix s.files = .ok p) :
    standard.lint s fix = .ok ⟨s.source, p.message, p.valid, p.reports⟩ := by
  have hparse : Message.parse standard.options (stripComments s.text) = .ok m := hm
  have hprocess : m.process standard.engine fix s.files = .ok p := hp
  simp only [lint, hparse, hprocess, bind, Except.bind]
  rfl

/-- A repaired header has its label, and another subject that stays on the line. -/
theorem repaired_header {h : Header} (h0 : h.Tidy) {type subject : Text}
    (ht : leaveAll? true typeTests h.type = some type)
    (hs : leaveAll? true subjectTests h.subject = some subject) :
    (h.setType type).setSubject subject = h.setSubject subject ∧
      (h.setSubject subject).Tidy ∧ (h.setSubject subject).isLabelled = true := by
  obtain ⟨hmem, rfl⟩ := leaveAll?_typeTests_iff.mp ht
  obtain ⟨-, -, -, -, hnewline⟩ := leaveAll?_subjectTests_spec hs
  have hknown : ∀ t ∈ commitTypes, t ≠ [] ∧ Text.strip t = t := by decide
  obtain ⟨hne, htrimmed⟩ := hknown h.type hmem
  refine ⟨?_, h0.setSubject fun hc => h0.subject_line (hnewline hc), ?_⟩
  · have hsame : h.setType h.type = h := by
      rw [Header.setType, htrimmed]
    rw [hsame]
  · simp [Header.isLabelled, Header.setSubject, hne]

/-- What is read of a repaired message: the header with the subject trimmed, and a body of lines
that fit before the footers that cannot be read. -/
theorem reread_repaired {ps : List (List Text)} (h : m.IsRead ps) {type subject body : Text}
    (ht : leaveAll? true typeTests m.header.type = some type)
    (hs : leaveAll? true subjectTests m.header.subject = some subject)
    (hb : leaveAll? true bodyTests m.body = some body) :
    ∃ r, Message.parse .standard (stripComments
        { m with header := (m.header.setType type).setSubject subject, body }.render) = .ok r ∧
      r.header.type = m.header.type ∧ r.header.subject = Text.strip subject ∧
      (Text.linesFit 72 r.body = true ↔
        ∀ f ∈ (Message.uncutFooters body m.footers).rdropWhile Footer.isReadable,
          f.plain.length ≤ 72) := by
  obtain ⟨hheader, htidy, hlabelled⟩ := repaired_header h.tidy ht hs
  rw [hheader]
  have hparse := Header.parse_line (Header.legible_of_isLabelled htidy hlabelled)
    (show HeaderOptions.standard.scopeDelimiter = [','] from rfl)
  have hrender : { m with header := m.header.setSubject subject, body }.render =
      Message.written (m.header.setSubject subject).line
        (Message.bodyParagraphs body ++ Message.footerParagraphs m.footers) := by
    refine Message.render_eq_written (Header.render_eq_line h.unpainted_header) ?_
      (fun f hf => Footer.render_of_style (h.unpainted_footer f hf))
      (Message.joinParagraphs_bodyParagraphs body).symm Message.bodyParagraphs_eq_nil_iff.symm
    show m.bodyStyle.apply body = body
    rw [h.unpainted_body, Style.apply_plain]
  obtain ⟨qs, gs, hread, hparagraphed, hlines⟩ := Message.parse_stripComments hparse
    (Header.line_ne_nil hlabelled) (Header.newline_notMem_line htidy)
    (Header.head?_line_ne htidy hlabelled) (Header.getLast?_line_ne htidy) h.tidy_footer body
  rw [hrender, hread]
  refine ⟨_, rfl, rfl, rfl, ?_⟩
  have hfit := linesFit_of_leaveAll? hb
  rw [Text.linesFit, List.all_eq_true] at hfit
  have hbody : ∀ l ∈ qs.flatten, l.length ≤ 72 := by
    intro l hl
    obtain ⟨k, hk, hlk⟩ := hlines l hl
    have hlen : k.length ≤ 72 := by simpa using hfit k hk
    exact hlk.length_le.trans hlen
  refine (Message.linesFit_joinParagraphs hparagraphed 72).trans ?_
  rw [List.flatten_append, Message.flatten_footerParagraphs]
  constructor
  · intro hall f hf
    exact hall _ (List.mem_append_right _ (List.mem_map_of_mem hf))
  · intro hall l hl
    rcases List.mem_append.mp hl with hl | hl
    · exact hbody l hl
    · obtain ⟨f, hf, rfl⟩ := List.mem_map.mp hl
      exact hall f hf

/-- When a valid repair is accepted: the subject has to keep the least length, and no footer that
is not read as one may be too long, unless the body cuts the footers off. -/
theorem relint_valid_iff (s : Submission) :
    ∃ r, standard.lint s true = .ok r ∧ ∀ source files, ∃ r',
      standard.lint ⟨source, r.message.render, files⟩ false = .ok r' ∧
        (r.valid = true → (r'.valid = true ↔ 5 ≤ r.message.header.subject.length ∧
          ((Text.lines r.message.body).any isScissors = true ∨
            ∀ f ∈ r.message.footers.rdropWhile Footer.isReadable, f.plain.length ≤ 72))) := by
  obtain ⟨m, hm⟩ := Message.exists_parse (stripComments s.text)
  obtain ⟨ps, hread, -, -⟩ := Message.isRead_of_parse hm
  obtain ⟨p, hp, hvalid, hmessage⟩ := m.process_standard true s.files
  refine ⟨_, lint_standard hm hp, fun source files => ?_⟩
  obtain ⟨m', hm'⟩ := Message.exists_parse (stripComments p.message.render)
  obtain ⟨p', hp', hvalid', -⟩ := m'.process_standard false files
  refine ⟨_, lint_standard hm' hp', fun hv => ?_⟩
  replace hv : p.valid = true := hv
  show p'.valid = true ↔ 5 ≤ p.message.header.subject.length ∧
    ((Text.lines p.message.body).any isScissors = true ∨
      ∀ f ∈ p.message.footers.rdropWhile Footer.isReadable, f.plain.length ≤ 72)
  rw [hvalid, Bool.and_eq_true, Bool.and_eq_true, Option.isSome_iff_exists,
    Option.isSome_iff_exists, Option.isSome_iff_exists] at hv
  obtain ⟨⟨⟨type, ht⟩, subject, hs⟩, body, hb⟩ := hv
  obtain ⟨r, hr, htype, hsubject, hfit⟩ := reread_repaired hread ht hs hb
  rw [← hmessage type subject body ht hs hb, hm', Except.ok.injEq] at hr
  subst hr
  -- A type is not repaired, so that it is left without repairs as well.
  have hknown : leaveAll? false typeTests m.header.type = some type := by
    rw [leaveAll?_typeTests_iff] at ht ⊢
    exact ht
  rw [hvalid', htype, hsubject, hknown, Option.isSome_some, Bool.true_and, Bool.and_eq_true,
    isSome_leaveAll?_strip hs, isSome_leaveAll?_bodyTests_iff, hfit,
    hmessage type subject body ht hs hb]
  refine and_congr_right fun _ => ?_
  unfold Message.uncutFooters
  cases hmark : (Text.lines body).any isScissors with
  | true => simp
  | false => simp

/-- A subject to be repaired and a footer that is a line of the body when it is read again. -/
def repairedSubmission : Submission :=
  ⟨"message".toList, "feat: add parser.\n\n-: note".toList, none⟩

theorem relint_valid_repairedSubmission :
    ∃ r, standard.lint repairedSubmission true = .ok r ∧ r.valid = true ∧ ∃ r',
      standard.lint ⟨"message".toList, r.message.render, none⟩ false = .ok r' ∧
        r'.valid = true := by
  obtain ⟨r, hr, hall⟩ := relint_valid_iff repairedSubmission
  obtain ⟨r', hr', hiff⟩ := hall "message".toList none
  obtain ⟨q, hq, hvalid, hlength, hfooters⟩ : ∃ q, standard.lint repairedSubmission true = .ok q ∧
      q.valid = true ∧ 5 ≤ q.message.header.subject.length ∧
        ∀ f ∈ q.message.footers.rdropWhile Footer.isReadable, f.plain.length ≤ 72 :=
    ⟨_, rfl, by decide +kernel⟩
  rw [hr, Except.ok.injEq] at hq
  subst hq
  exact ⟨r, hr, hvalid, r', hr', (hiff hvalid).mpr ⟨hlength, Or.inr hfooters⟩⟩

/-- Blanks before a full stop count for the least length, and are trimmed with it. -/
theorem relint_rejects_shortSubject :
    ∃ r, standard.lint ⟨[], "feat: Abc  .".toList, none⟩ true = .ok r ∧ r.valid = true ∧
      r.message.render = "feat: Abc".toList ∧ ∃ r',
        standard.lint ⟨[], r.message.render, none⟩ false = .ok r' ∧ r'.valid = false := by
  obtain ⟨r, hr, hvalid, hrender⟩ : ∃ r,
      standard.lint ⟨[], "feat: Abc  .".toList, none⟩ true = .ok r ∧ r.valid = true ∧
        r.message.render = "feat: Abc".toList :=
    ⟨_, rfl, by decide +kernel⟩
  refine ⟨r, hr, hvalid, hrender, ?_⟩
  rw [hrender]
  exact ⟨_, rfl, by decide +kernel⟩

end Linter

end CommitStandard
