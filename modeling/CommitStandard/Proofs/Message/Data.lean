import Mathlib.Tactic
import CommitStandard.Message.Data
import CommitStandard.Proofs.Message.BreakingMarks
import CommitStandard.Proofs.Message.Unrepaired

/-!
# Messages read back from their tables

The table of a message has its fields but not the mark of a breaking change, and what
is read from a table has a trimmed body (`ofValue_toValue`). A message that was read
from a text is therefore the same after both only if it has no such mark that shows
and no blanks around its body (`ofValue_toValue_of_parse`).
-/
namespace CommitStandard

namespace Text

variable {c : Char} {before : Text}

/-- A text is cut at a separator that begins with a character not found before. -/
theorem cutAt_append (h : c ∉ before) (sep after : Text) :
    cutAt (c :: sep) (before ++ (c :: sep ++ after)) = some (before, after) := by
  induction before with
  | nil => simp [cutAt]
  | cons d before ih =>
    obtain ⟨hd, hrest⟩ := not_or.mp (mt List.mem_cons.mpr h)
    have hprefix : (c :: sep).isPrefixOf (d :: (before ++ (c :: sep ++ after))) = false := by
      simp [List.isPrefixOf, hd]
    rw [List.cons_append, cutAt, hprefix, ih hrest]
    rfl

/-- A text that ends in the first character of a longer separator is not cut there. -/
theorem cutAt_concat (h : c ∉ before) (d : Char) (sep : Text) :
    cutAt (c :: d :: sep) (before ++ [c]) = none := by
  induction before with
  | nil => simp [cutAt, List.isPrefixOf]
  | cons e before ih =>
    obtain ⟨he, hrest⟩ := not_or.mp (mt List.mem_cons.mpr h)
    have hprefix : (c :: d :: sep).isPrefixOf (e :: (before ++ [c])) = false := by
      simp [List.isPrefixOf, he]
    rw [List.cons_append, cutAt, hprefix, ih hrest]
    rfl

theorem dropEnd_concat (h : c ∉ before) : dropEnd (· = c) (before ++ [c]) = before := by
  have hdrop : before.reverse.dropWhile (fun d => decide (d = c)) = before.reverse := by
    rw [List.dropWhile_eq_self_iff]
    intro hpos hc
    have hmem : c ∈ before := by
      rw [← of_decide_eq_true hc]
      exact List.mem_reverse.mp (List.getElem_mem _)
    exact h hmem
  rw [dropEnd, List.reverse_append, List.reverse_singleton, List.singleton_append,
    List.dropWhile_cons_of_pos (by simp), hdrop, List.reverse_reverse]

end Text

namespace Header

def unmarked (h : Header) : Header := { h with breaking := false }

/-- The mark shows in the line of a header that has a label. -/
theorem line_unmarked_iff (h : Header) :
    h.unmarked.line = h.line ↔ (h.breaking = true → h.isLabelled = false) := by
  unfold unmarked line labelledSubject isLabelled label parenthesized scope
  cases h.breaking <;> cases h.type.isEmpty && h.scopes.isEmpty <;> cases h.nameSpace.isEmpty <;>
    simp

theorem Tidy.unmarked {h : Header} (ht : h.Tidy) : h.unmarked.Tidy := { ht with }

end Header

namespace Message

/-- The line of a footer is read as a footer of its token and its text, whatever they are. -/
theorem looseFooter_plain {f : Footer} (h : ':' ∉ f.token) :
    looseFooter f.plain = .make f.token f.text := by
  unfold looseFooter Footer.plain
  cases ht : f.text with
  | nil =>
    rw [List.isEmpty_nil, if_pos rfl]
    have hcut : Text.cutAt ": ".toList (f.token ++ [':']) = none := Text.cutAt_concat h ' ' []
    rw [hcut]
    dsimp only
    rw [Text.dropEnd_concat h]
  | cons c text =>
    have hcut : Text.cutAt ": ".toList (f.token ++ ": ".toList ++ c :: text) =
        some (f.token, c :: text) := by
      rw [List.append_assoc]
      exact Text.cutAt_append h [' '] (c :: text)
    rw [List.isEmpty_cons, if_neg (by simp), hcut]

section Fields

variable {options : HeaderOptions} {entries : Entries}

theorem elements_ofTexts (ts : List Text) : elements (.ofTexts ts) = .ok (ts.map .text) := by
  cases ts <;> rfl

theorem textField_entries (key : Text) {s : Text} {other : DataError}
    (h : Entries.get? key entries = some (.text s)) : textField other entries key = .ok s := by
  rw [textField, h]
  cases s <;> rfl

theorem scopesField_entries {ts : List Text}
    (h : Entries.get? "scope".toList entries = some (.ofTexts ts)) :
    scopesField options entries = .ok ts := by
  have htexts : (ts.map Value.text).mapM Value.text? = some ts := Value.texts?_ofTexts ts
  rw [scopesField, h]
  simp only [Value.ofTexts]
  rw [← Value.ofTexts, elements_ofTexts]
  simp only [bind, Except.bind, htexts, pure, Except.pure]

theorem footersField_entries (room : Nat) {fs : List Footer} (hc : ∀ f ∈ fs, ':' ∉ f.token)
    (h : Entries.get? "footers".toList entries = some (.ofTexts (fs.map Footer.plain))) :
    footersField room entries = .ok (fs.map fun f => .make f.token f.text) := by
  have hread : (((fs.map Footer.plain).map Value.text).mapM (footerOfValue room)) =
      .ok (fs.map fun f => Footer.make f.token f.text) := by
    clear h
    induction fs with
    | nil => rfl
    | cons f fs ih =>
      have hf : footerOfValue room (.text f.plain) = .ok (.make f.token f.text) :=
        congrArg Except.ok (looseFooter_plain (hc f List.mem_cons_self))
      rw [List.map_cons, List.map_cons, List.mapM_cons, hf,
        ih fun g hg => hc g (List.mem_cons_of_mem f hg)]
      rfl
  rw [footersField, h]
  show (elements (.ofTexts (fs.map Footer.plain)) >>= List.mapM (footerOfValue room)) = _
  rw [elements_ofTexts]
  exact hread

/-- A message is read from its table with a trimmed body, tidy scopes and the tokens of its
footers in their normal spelling, and without the mark of a breaking change. -/
theorem ofValue_toValue (room : Nat) {m : Message} (h : ∀ f ∈ m.footers, ':' ∉ f.token) :
    ofValue room options m.toValue = .ok (make
      (.make options m.header.nameSpace m.header.type m.header.scopes m.header.subject false)
      (Text.strip m.body) (m.footers.map fun f => .make f.token f.text)) := by
  unfold toValue ofValue
  dsimp only
  rw [scopesField_entries rfl, footersField_entries room h rfl, textField_entries "body".toList rfl,
    textField_entries "namespace".toList rfl, textField_entries "type".toList rfl,
    textField_entries "subject".toList rfl]
  rfl

end Fields

/-- What was read from a text is kept in the table but for the mark, blanks around the body and
the spelling of the tokens. -/
theorem ofValue_toValue_of_read (room : Nat) {options : HeaderOptions} {s : Text} {m : Message}
    (hm : parse options s = .ok m) : ofValue room options m.toValue =
      .ok (make m.header.unmarked (Text.strip m.body)
        (m.footers.map fun f => .make f.token f.text)) := by
  have hcolon : ∀ f ∈ m.footers, ':' ∉ f.token :=
    fun f hf => (tidy_footer_of_parse hm hf).1.colon_notMem
  obtain ⟨header, body, footers, hheader, rfl, -⟩ := eq_make_of_parse hm
  obtain ⟨ns, type, scopes, subject, breaking, rfl, -⟩ := Header.eq_make_of_parse hheader
  rw [ofValue_toValue room hcolon]
  simp only [make, Header.unmarked, Header.make, Header.distinctScopes_distinctScopes]

section Written

variable {m : Message} {ps : List (List Text)}

theorem IsRead.strip_body_eq_nil_iff (h : m.IsRead ps) : Text.strip m.body = [] ↔ m.body = [] := by
  constructor
  · intro hstrip
    have hblank := List.all_eq_true.mp (Text.strip_eq_nil_iff.mp hstrip)
    rw [h.body_eq_nil_iff]
    by_contra hne
    obtain ⟨p, rest, rfl⟩ := List.exists_cons_of_ne_nil hne
    have hp := h.paragraphed.filled p (by simp)
    rw [isBlankParagraph, ← Bool.not_eq_true, List.all_eq_true] at hp
    refine hp fun l hl => List.all_eq_true.mpr fun c hc => hblank c ?_
    rw [h.body, joinParagraphs]
    exact Text.mem_join_of_mem (List.mem_map_of_mem List.mem_cons_self)
      (Text.mem_join_of_mem hl hc)
  · intro hbody
    rw [hbody]
    rfl

/-- The paragraphs of a message without paint below its header line. -/
def below (m : Message) : List Text :=
  (if m.body.isEmpty then [] else [m.body]) ++ m.footers.map Footer.plain

theorem paragraphs_of_unpainted (hheader : ∀ field t, (m.header.styles field).apply t = t)
    (hbody : m.bodyStyle = .plain) (hfooters : ∀ f ∈ m.footers, f.style = .plain) :
    m.paragraphs = m.header.line :: m.below := by
  have hrender : m.footers.map Footer.render = m.footers.map Footer.plain :=
    List.map_congr_left fun f hf => Footer.render_of_style (hfooters f hf)
  rw [paragraphs, below, Header.render_eq_line hheader, hrender, hbody, Style.apply_plain]

/-- A message with its footers in place is written as before if it was read with a trimmed body
and shows no mark. -/
theorem IsRead.render_unmarked_iff (h : m.IsRead ps) :
    (make m.header.unmarked (Text.strip m.body) m.footers).render = m.render ↔
      m.header.unmarked.line = m.header.line ∧ Text.strip m.body = m.body := by
  obtain ⟨r, hr⟩ : ∃ r, r = make m.header.unmarked (Text.strip m.body) m.footers := ⟨_, rfl⟩
  have hparagraphs : r.paragraphs = m.header.unmarked.line :: r.below := by
    rw [hr]
    exact paragraphs_of_unpainted h.unpainted_header rfl h.unpainted_footer
  have hbelow : r.below = (if m.body.isEmpty then [] else [Text.strip m.body]) ++
      m.footers.map Footer.plain := by
    rw [hr, below]
    simp only [make, List.isEmpty_iff, h.strip_body_eq_nil_iff]
  have hnil : r.below = [] ↔ m.below = [] := by
    rw [hbelow, below]
    cases m.body.isEmpty <;> simp
  have hjoin : Text.join "\n\n".toList r.below = Text.join "\n\n".toList m.below ↔
      Text.strip m.body = m.body := by
    rw [hbelow, below]
    by_cases hbody : m.body = []
    · simp [hbody]
    · have hempty : m.body.isEmpty = false := List.isEmpty_eq_false_iff.mpr hbody
      rw [hempty, if_neg Bool.false_ne_true, if_neg Bool.false_ne_true]
      by_cases hfooters : m.footers.map Footer.plain = []
      · simp [hfooters]
      · rw [List.singleton_append, List.singleton_append, Text.join_cons _ _ hfooters,
          Text.join_cons _ _ hfooters, List.append_assoc, List.append_assoc,
          List.append_left_inj]
  rw [← hr, render, render, hparagraphs,
    paragraphs_of_unpainted h.unpainted_header h.unpainted_body h.unpainted_footer,
    Text.join_cons_inj (Header.newline_notMem_line h.tidy.unmarked) h.newline_notMem hnil, hjoin]

end Written

/-- A message that was read from a text is read back from its table without the mark of a
breaking change and with a trimmed body. If the tokens of its footers are in their normal
spelling, both messages are written alike and announce the same exactly if the body was trimmed
and a mark, if there is one, neither shows nor stands alone. -/
theorem ofValue_toValue_of_parse (room : Nat) (s : Text) :
    ∃ m, parse .standard s = .ok m ∧ ∃ r, ofValue room .standard m.toValue = .ok r ∧
      r.header = m.header.unmarked ∧ r.body = Text.strip m.body ∧
      r.footers.map Footer.text = m.footers.map Footer.text ∧
      r.isBreaking = m.footers.any Footer.isBreaking ∧
      ((∀ f ∈ m.footers, Footer.normalizeToken f.token = f.token) →
        r.footers = m.footers ∧ (r.render = m.render ∧ r.isBreaking = m.isBreaking ↔
          Text.strip m.body = m.body ∧ (m.header.breaking = true →
            m.header.isLabelled = false ∧ m.footers.any Footer.isBreaking = true))) := by
  obtain ⟨m, hm⟩ := exists_parse s
  obtain ⟨ps, h, -, -⟩ := isRead_of_parse hm
  have htexts : ∀ f ∈ m.footers, (Footer.make f.token f.text).text = f.text :=
    fun f hf => (h.tidy_footer f hf).text_trimmed
  have hbreaking : (make m.header.unmarked (Text.strip m.body)
      (m.footers.map fun f => .make f.token f.text)).isBreaking =
        m.footers.any Footer.isBreaking :=
    Footer.any_isBreaking_make h.tidy_footer
  refine ⟨m, hm, _, ofValue_toValue_of_read room hm, rfl, rfl, ?_, hbreaking, fun hnormal => ?_⟩
  · show (m.footers.map _).map Footer.text = _
    rw [List.map_map]
    exact List.map_congr_left htexts
  · have hfooters : (m.footers.map fun f => Footer.make f.token f.text) = m.footers := by
      conv_rhs => rw [← List.map_id m.footers]
      refine List.map_congr_left fun f hf => ?_
      rw [Footer.make, hnormal f hf, (h.tidy_footer f hf).text_trimmed,
        ← h.unpainted_footer f hf]
      rfl
    refine ⟨hfooters, ?_⟩
    rw [hbreaking, hfooters, h.render_unmarked_iff, Header.line_unmarked_iff, isBreaking]
    cases m.header.breaking with
    | false => simp
    | true =>
      -- A mark that does not show has to be made up for by a footer.
      simp only [Bool.true_or, true_imp_iff, and_assoc, and_left_comm]

theorem ofValue_toValue_withFooter :
    ∃ m, parse .standard "feat!: Add X\n\nBody.\n\nRefs: a: b".toList = .ok m ∧
      ∃ r, ofValue 0 .standard m.toValue = .ok r ∧
        (r.render = m.render ∧ r.isBreaking = m.isBreaking ↔
          Text.strip m.body = m.body ∧ (m.header.breaking = true →
            m.header.isLabelled = false ∧ m.footers.any Footer.isBreaking = true)) := by
  obtain ⟨m, hm, r, hr, -, -, -, -, h⟩ :=
    ofValue_toValue_of_parse 0 "feat!: Add X\n\nBody.\n\nRefs: a: b".toList
  obtain rfl := Except.ok.inj hm
  exact ⟨_, rfl, r, hr, (h (by decide +kernel)).2⟩

/-- The table keeps neither the mark nor the indentation of the body. -/
theorem ofValue_toValue_indented :
    ∃ m, parse .standard "feat!: Add X\n\n  - indented".toList = .ok m ∧
      ∃ r, ofValue 0 .standard m.toValue = .ok r ∧
        m.render = "feat!: Add X\n\n  - indented".toList ∧ m.isBreaking = true ∧
        r.render = "feat: Add X\n\n- indented".toList ∧ r.isBreaking = false ∧
        r.render ≠ m.render :=
  ⟨_, rfl, _, rfl, by decide +kernel, by decide +kernel, by decide +kernel, by decide +kernel,
    by decide +kernel⟩

end Message

end CommitStandard
