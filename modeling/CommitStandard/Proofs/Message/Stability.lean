import Mathlib.Tactic
import CommitStandard.Proofs.Message.RoundTrip

/-!
# Writing what was read

Reading and writing a text is meant to bring it into a form that reading and
writing leave alone. `Message.Settled` says when that holds of a message that was
read: no line ends in a carriage return before its line feed, the header line is
one that is written for a header, something stands before a body or footers, and
the footers that are read as footers once more have tokens in their normal
spelling. Two measures of the lines show that the first and the third of these
are needed: reading again gives fewer carriage returns or fewer filled lines
otherwise.
-/
namespace CommitStandard

namespace Text

/-- The lines that are not empty. -/
def filled (ls : List Text) : List Text := ls.filter fun l => !l.isEmpty

theorem filled_trimLines (ls : List Text) : filled (trimLines ls) = filled ls :=
  filter_trimEnds List.isEmpty ls

theorem length_filled_chopReturns (ls : List Text) :
    (filled (chopReturns ls)).length ≤ (filled ls).length := by
  fun_induction chopReturns ls with
  | case1 => rfl
  | case2 l => rfl
  | case3 l m ls ih =>
    have hchop : l.isEmpty = true → (chopReturn l).isEmpty = true := by
      intro hl
      rw [List.isEmpty_iff.mp hl]
      rfl
    unfold filled at ih ⊢
    rw [List.filter_cons, List.filter_cons]
    cases hl : l.isEmpty with
    | true =>
      rw [hchop hl]
      simpa using ih
    | false =>
      rw [if_pos (by rfl : (!false) = true), List.length_cons]
      split
      · rw [List.length_cons]
        omega
      · omega

/-- The number of carriage returns in lines. -/
def returns (ls : List Text) : Nat := ls.flatten.count '\r'

@[simp] theorem returns_cons (l : Text) (ls : List Text) :
    returns (l :: ls) = l.count '\r' + returns ls := by
  simp [returns]

@[simp] theorem returns_append (ls ks : List Text) :
    returns (ls ++ ks) = returns ls + returns ks := by
  simp [returns]

theorem returns_le_of_sublist {ls ks : List Text} (h : ls.Sublist ks) : returns ls ≤ returns ks :=
  h.flatten.count_le '\r'

theorem count_chopReturn_lt {l : Text} (h : chopReturn l ≠ l) :
    (chopReturn l).count '\r' < l.count '\r' := by
  unfold chopReturn at h ⊢
  split at h
  · rename_i hlast
    obtain ⟨t, rfl⟩ := List.getLast?_eq_some_iff.mp hlast
    simp
  · exact absurd rfl h

/-- Lines that change lose a carriage return. -/
theorem returns_chopReturns_lt {ls : List Text} (h : chopReturns ls ≠ ls) :
    returns (chopReturns ls) < returns ls := by
  have hle : ∀ l : Text, (chopReturn l).count '\r' ≤ l.count '\r' :=
    fun l => (chopReturn_isPrefix l).sublist.count_le '\r'
  have hlines : ∀ ks : List Text, returns (chopReturns ks) ≤ returns ks := by
    intro ks
    fun_induction chopReturns ks with
    | case1 => rfl
    | case2 l => rfl
    | case3 l m ks ih =>
      have := hle l
      rw [returns_cons, returns_cons l]
      omega
  fun_induction chopReturns ls with
  | case1 => exact absurd rfl h
  | case2 l => exact absurd rfl h
  | case3 l m ls ih =>
    rw [returns_cons, returns_cons l]
    by_cases hl : chopReturn l = l
    · have hrest : chopReturns (m :: ls) ≠ m :: ls := by
        intro hrest
        exact h (by rw [hl, hrest])
      have := ih hrest
      have := hle l
      omega
    · have := count_chopReturn_lt hl
      have := hlines (m :: ls)
      omega

theorem unixLines_of_chopReturns {s : Text} (h : chopReturns (lines s) = lines s) :
    unixLines s = s := by
  have hs : ∀ l ∈ lines s, '\n' ∉ l := fun l => notMem_of_mem_pieces
  calc unixLines s = unixLines (join ['\n'] (lines s)) := by rw [join_pieces]
    _ = join ['\n'] (lines s) := by rw [unixLines_join hs, h]
    _ = s := join_pieces '\n' s

end Text

namespace Footer

theorem return_notMem_normalizeToken {t : Text} (ht : IsToken t) : '\r' ∉ normalizeToken t := by
  intro hc
  rw [isSign_normalizeToken ht hc (by decide)] at hc
  revert hc
  decide

/-- Reading a line as a footer adds no carriage return. -/
theorem count_plain_le {l : Text} {f : Footer} (h : parse l = .ok f) :
    f.plain.count '\r' ≤ l.count '\r' := by
  obtain ⟨token, rest, text, ht, hs, htext, rfl⟩ := parse_eq_ok_iff.mp h
  have hline : (Text.strip l).count '\r' ≤ l.count '\r' :=
    (Text.isInfix_trimEnds Text.isBlank l).sublist.count_le '\r'
  have htoken : (normalizeToken token).count '\r' = 0 :=
    List.count_eq_zero.mpr (return_notMem_normalizeToken ht)
  have hrest : text.count '\r' ≤ rest.count '\r' := by
    rcases (takeText?_eq_some htext).1 with ⟨rfl, rfl⟩ | rfl
    · exact le_rfl
    · exact List.count_le_count_cons
  have hspace : ∀ t : Text, (Text.spaceBefore t).count '\r' = t.count '\r' := by
    intro t
    cases t <;> simp
  have htrim : (Text.strip text).count '\r' ≤ text.count '\r' :=
    (Text.isInfix_trimEnds Text.isBlank text).sublist.count_le '\r'
  have hplain : (make token text).plain.count '\r' = (Text.strip text).count '\r' := by
    rw [plain_eq]
    simp [make, htoken, hspace]
  have hcut := congrArg (List.count '\r') hs
  rw [List.count_append, List.count_cons_of_ne (by decide)] at hcut
  omega

theorem Reads.returns_le {ls : List Text} {fs : List Footer} (h : Reads ls fs) :
    Text.returns (fs.map plain) ≤ Text.returns ls := by
  induction h with
  | nil => rfl
  | cons hf _ ih =>
    have := count_plain_le hf
    rw [List.map_cons, Text.returns_cons, Text.returns_cons]
    omega

end Footer

namespace Message

open Footer (Reads)

variable {m r : Message} {ps qs : List (List Text)}

/-- What reading makes of a message whose body has the given paragraphs. -/
structure IsRead (m : Message) (ps : List (List Text)) : Prop where
  tidy : m.header.Tidy
  unpainted_header : ∀ field t, (m.header.styles field).apply t = t
  body : m.body = joinParagraphs ps
  unpainted_body : m.bodyStyle = .plain
  last : ∀ p, ps.getLast? = some p → HasText p
  tidy_footer : ∀ f ∈ m.footers, f.Tidy
  unpainted_footer : ∀ f ∈ m.footers, f.style = .plain
  paragraphed : Paragraphed (ps ++ footerParagraphs m.footers)

theorem isRead_make {line : Text} (hn : '\n' ∉ line) {h : Header}
    (hh : Header.parse .standard line = .ok h) (hq : Paragraphed qs) :
    IsRead (make h (joinParagraphs (splitFooters qs).1) (splitFooters qs).2)
      (splitFooters qs).1 := by
  obtain ⟨htidy, hplain⟩ := Header.tidy_of_parse rfl hn hh
  obtain ⟨blocks, hsplit, hreads, hlast⟩ := splitFooters_spec qs
  have hfooter : ∀ f ∈ (splitFooters qs).2, ∃ l, Footer.parse l = .ok f := fun f hf =>
    hreads.exists_of_mem_right hf
  have hfooters : ∀ f ∈ (splitFooters qs).2, f.Tidy := by
    intro f hf
    obtain ⟨l, hl⟩ := hfooter f hf
    exact Footer.tidy_of_parse hl
  have hlines := footerParagraphs_plain hfooters
  refine ⟨htidy, hplain, rfl, rfl, hlast, hfooters, ?_, ?_⟩
  · intro f hf
    obtain ⟨l, hl⟩ := hfooter f hf
    exact Footer.style_of_parse hl
  · show Paragraphed ((splitFooters qs).1 ++ footerParagraphs (splitFooters qs).2)
    rw [hsplit] at hq
    refine hq.exchange ?_ (fun p hp => (hlines p hp).1) fun p hp => (hlines p hp).2
    rintro rfl
    rw [List.forall₂_nil_left_iff.mp hreads]
    rfl

theorem IsRead.body_eq_nil_iff (h : IsRead m ps) : m.body = [] ↔ ps = [] := by
  rw [h.body]
  exact (h.paragraphed.sublist (List.sublist_append_left ps _)).joinParagraphs_eq_nil_iff

theorem IsRead.render_eq (h : IsRead m ps) :
    m.render = written m.header.line (ps ++ footerParagraphs m.footers) := by
  have hfooters : ∀ f ∈ m.footers, f.render = f.plain :=
    fun f hf => Footer.render_of_style (h.unpainted_footer f hf)
  have hbody : m.bodyStyle.apply m.body = m.body := by
    rw [h.unpainted_body, Style.apply_plain]
  exact render_eq_written (Header.render_eq_line h.unpainted_header) hbody hfooters h.body
    h.body_eq_nil_iff

theorem IsRead.newline_notMem (h : IsRead m ps) : '\n' ∉ m.header.line :=
  Header.newline_notMem_line h.tidy

/-- The written form of what is read determines its line and its paragraphs. -/
theorem IsRead.render_eq_iff (h : IsRead m ps) (h' : IsRead r qs) :
    r.render = m.render ↔ r.header.line = m.header.line ∧
      qs ++ footerParagraphs r.footers = ps ++ footerParagraphs m.footers := by
  rw [h.render_eq, h'.render_eq]
  constructor
  · exact written_inj h'.paragraphed h.paragraphed h'.newline_notMem h.newline_notMem
  · rintro ⟨hline, hparagraphs⟩
    rw [hline, hparagraphs]

/-- Footers are split off again up to the first that cannot be read. -/
theorem IsRead.splitFooters_eq (h : IsRead m ps) :
    splitFooters (ps ++ footerParagraphs m.footers) =
      (ps ++ footerParagraphs (m.footers.rdropWhile Footer.isReadable),
        (m.footers.rtakeWhile Footer.isReadable).map fun f => Footer.make f.token f.text) :=
  splitFooters_append_footers h.tidy_footer h.last

/-- Where reading changes no line break, it changes a written message in its header line and in
the tokens of the footers that it finds. -/
theorem IsRead.render_eq_iff_of_unixLines (h : IsRead m ps) (hl : m.header.line ≠ [])
    (hu : Text.unixLines m.render = m.render) (hr : parse .standard m.render = .ok r) :
    r.render = m.render ↔ Header.IsWritten m.header.line ∧
      ∀ f ∈ m.footers.rtakeWhile Footer.isReadable, Footer.normalizeToken f.token = f.token := by
  obtain ⟨h', hh'⟩ := Header.exists_parse_standard h.newline_notMem
  have hwritten := Header.render_parse_iff
    (show HeaderOptions.standard.scopeDelimiter = [','] from rfl) h.newline_notMem
  have hread := isRead_make h.newline_notMem hh' h.paragraphed
  have hparse := parse_written h.paragraphed hl h.newline_notMem (by rw [← h.render_eq, hu]) hh'
  rw [← h.render_eq, hr, Except.ok.injEq] at hparse
  subst hparse
  rw [h.render_eq_iff hread, ← hwritten]
  have hplain := (Header.tidy_of_parse rfl h.newline_notMem hh').2
  have hheader : (∃ k, Header.parse .standard m.header.line = .ok k ∧ k.render = m.header.line) ↔
      h'.line = m.header.line := by
    rw [hh']
    constructor
    · rintro ⟨k, hk, hline⟩
      rw [← Except.ok.inj hk, Header.render_eq_line hplain] at hline
      exact hline
    · intro hline
      exact ⟨h', rfl, by rw [Header.render_eq_line hplain, hline]⟩
  have hfooters : (splitFooters (ps ++ footerParagraphs m.footers)).1 ++
      footerParagraphs (splitFooters (ps ++ footerParagraphs m.footers)).2 =
      ps ++ footerParagraphs m.footers ↔
      ∀ f ∈ m.footers.rtakeWhile Footer.isReadable, Footer.normalizeToken f.token = f.token := by
    have hsame : footerParagraphs ((m.footers.rtakeWhile Footer.isReadable).map
        fun f => Footer.make f.token f.text) =
        footerParagraphs (m.footers.rtakeWhile Footer.isReadable) ↔
        ∀ f ∈ m.footers.rtakeWhile Footer.isReadable, Footer.normalizeToken f.token = f.token := by
      rw [footerParagraphs, footerParagraphs, List.map_map, List.map_inj_left]
      refine forall₂_congr fun f hf => ?_
      have htidy := h.tidy_footer f ((List.rtakeWhile_suffix _ _).subset hf)
      rw [← Footer.plain_make_iff htidy]
      simp
    rw [h.splitFooters_eq, ← hsame, footerParagraphs_eq m.footers, ← List.append_assoc]
    exact List.append_right_inj _
  rw [hheader]
  exact and_congr_right fun _ => hfooters

theorem returns_spacedLines (ps : List (List Text)) :
    Text.returns (spacedLines ps) = Text.returns ps.flatten := by
  induction ps with
  | nil => rfl
  | cons p ps ih =>
    by_cases hps : ps = []
    · subst hps
      simp [spacedLines]
    · rw [spacedLines_cons p hps, Text.returns_append, Text.returns_cons, ih, List.flatten_cons,
        Text.returns_append]
      simp

theorem exists_parse (s : Text) : ∃ m, parse .standard s = .ok m := by
  have hplain := newline_notMem_headD s
  obtain ⟨h, hh⟩ := Header.exists_parse_standard hplain
  rw [parse_eq_lines, hh]
  exact ⟨_, rfl⟩

/-- Reading splits the paragraphs below the header line into those of the body and lines that are
footers. -/
theorem exists_blocks_of_parse {s : Text} {m : Message} (h : parse .standard s = .ok m) :
    ∃ ps blocks, IsRead m ps ∧ groups (messageLines s).tail = ps ++ blocks ∧
      Reads blocks.flatten m.footers := by
  have hplain := newline_notMem_headD s
  have hpara : Paragraphed (groups (messageLines s).tail) :=
    paragraphed_groups fun l hl => messageLines_plain s l (List.mem_of_mem_tail hl)
  obtain ⟨k, hk⟩ := Header.exists_parse_standard hplain
  rw [parse_eq_lines, hk] at h
  obtain rfl := Except.ok.inj h
  obtain ⟨blocks, hsplit, hreads, -⟩ := splitFooters_spec (groups (messageLines s).tail)
  exact ⟨_, blocks, isRead_make hplain hk hpara, hsplit, hreads⟩

/-- What was read has no more lines, and no more carriage returns in them, than the text has
after its first line. -/
theorem isRead_of_parse {s : Text} (h : parse .standard s = .ok m) :
    ∃ ps, IsRead m ps ∧
      (ps ++ footerParagraphs m.footers).flatten.length ≤
        (Text.filled (messageLines s).tail).length ∧
      Text.returns (ps ++ footerParagraphs m.footers).flatten ≤
        Text.returns (messageLines s).tail := by
  obtain ⟨ps, blocks, hread, hsplit, hreads⟩ := exists_blocks_of_parse h
  have hpara : Paragraphed (groups (messageLines s).tail) :=
    paragraphed_groups fun l hl => messageLines_plain s l (List.mem_of_mem_tail hl)
  have hsub := flatten_groups_sublist (messageLines s).tail
  refine ⟨ps, hread, ?_, ?_⟩
  · have hfilled : Text.filled (groups (messageLines s).tail).flatten =
        (groups (messageLines s).tail).flatten := by
      rw [Text.filled, List.filter_eq_self]
      intro l hl
      obtain ⟨p, hp, hlp⟩ := List.mem_flatten.mp hl
      simpa using hpara.line_filled p hp l hlp
    have hle := (hsub.filter fun l => !l.isEmpty).length_le
    have hlen := hreads.length_eq
    rw [← Text.filled, ← Text.filled, hfilled, Text.filled_trimLines, hsplit] at hle
    simp only [List.flatten_append, List.length_append, flatten_footerParagraphs,
      List.length_map] at hle ⊢
    omega
  · have hle := Text.returns_le_of_sublist (hsub.trans (Text.isInfix_trimEnds _ _).sublist)
    have hfooters := hreads.returns_le
    rw [hsplit] at hle
    simp only [List.flatten_append, Text.returns_append, flatten_footerParagraphs] at hle ⊢
    omega

theorem Paragraphed.length_flatten_pos (hp : Paragraphed ps) (hne : ps ≠ []) :
    0 < ps.flatten.length := by
  obtain ⟨p, rest, rfl⟩ := List.exists_cons_of_ne_nil hne
  have hpos := List.length_pos_iff.mpr (hp.ne_nil p List.mem_cons_self)
  rw [List.flatten_cons, List.length_append]
  omega

theorem filled_lines_written {line : Text} (hp : Paragraphed ps) (hn : '\n' ∉ line) :
    Text.filled (Text.lines (written line ps)) = Text.filled [line] ++ ps.flatten := by
  rw [lines_written hp.ne_nil hp.line_plain hn, ← filter_spacedLines hp.line_filled,
    ← List.singleton_append, Text.filled, List.filter_append]
  by_cases hps : ps = []
  · rw [if_pos hps, hps]
    rfl
  · rw [if_neg hps]
    rfl

/-- The first of the lines that are read is not empty, so that there are fewer after it. -/
theorem length_filled_tail_lt {s : Text} (h : 0 < (Text.filled (messageLines s).tail).length) :
    (Text.filled (messageLines s).tail).length < (Text.filled (Text.lines s)).length := by
  have hchop := Text.length_filled_chopReturns (Text.lines s)
  have hmessage : Text.filled (messageLines s) = Text.filled (Text.chopReturns (Text.lines s)) :=
    Text.filled_trimLines _
  have hhead := Text.head?_trimLines (Text.chopReturns (Text.lines s))
  rw [← messageLines] at hhead
  rw [← hmessage] at hchop
  cases hls : messageLines s with
  | nil =>
    rw [hls] at h
    exact absurd h (by simp [Text.filled])
  | cons l ls =>
    have hlne : l ≠ [] := by
      rintro rfl
      rw [hls] at hhead
      exact hhead rfl
    rw [hls, Text.filled, List.filter_cons_of_pos (by simpa using hlne), List.length_cons,
      ← Text.filled] at hchop
    rw [List.tail_cons]
    omega

/-- Where reading a written text keeps the carriage returns after its first line, no line loses
one before its line break. -/
theorem unixLines_written {line : Text} (hp : Paragraphed ps) (hn : '\n' ∉ line) (hl : line ≠ [])
    (hlast : line.getLast? ≠ some '\r')
    (hreturns : Text.returns ps.flatten ≤ Text.returns (messageLines (written line ps)).tail) :
    Text.unixLines (written line ps) = written line ps := by
  by_contra hne
  have hchanged : Text.chopReturns (Text.lines (written line ps)) ≠ Text.lines (written line ps) :=
    fun hc => hne (Text.unixLines_of_chopReturns hc)
  have hlost := Text.returns_chopReturns_lt hchanged
  have hlines := lines_written hp.ne_nil hp.line_plain hn
  have hrest : Text.returns (Text.lines (written line ps)) =
      line.count '\r' + Text.returns ps.flatten := by
    rw [hlines, Text.returns_cons]
    split
    · rename_i h0
      rw [h0]
      rfl
    · rw [Text.returns_cons, returns_spacedLines]
      simp
  have hchop : Text.chopReturn line = line := by
    rw [Text.chopReturn, if_neg hlast]
  obtain ⟨ls, hls⟩ : ∃ ls, messageLines (written line ps) = line :: ls := by
    obtain ⟨ks, hks⟩ : ∃ ks, Text.chopReturns (Text.lines (written line ps)) = line :: ks := by
      rw [hlines]
      split
      · exact ⟨[], rfl⟩
      · exact ⟨_, by rw [Text.chopReturns_cons _ (by simp), hchop]⟩
    rw [messageLines, hks]
    exact ⟨_, Text.trimLines_cons hl ks⟩
  have hle : Text.returns (messageLines (written line ps)) ≤
      Text.returns (Text.chopReturns (Text.lines (written line ps))) :=
    Text.returns_le_of_sublist (Text.isInfix_trimEnds _ _).sublist
  rw [hls, Text.returns_cons] at hle
  rw [hls, List.tail_cons] at hreturns
  omega

section Again

variable (h : IsRead m ps) (hr : parse .standard m.render = .ok r) (hs : r.render = m.render)

include h hr hs

/-- Without a header line the first line of the rest would be read as one. -/
theorem IsRead.eq_nil_of_render_eq (hl : m.header.line = []) :
    ps ++ footerParagraphs m.footers = [] := by
  obtain ⟨qs, hq, hlength, -⟩ := isRead_of_parse hr
  obtain ⟨hline, hsame⟩ := (h.render_eq_iff hq).mp hs
  by_contra hne
  have hpos := h.paragraphed.length_flatten_pos hne
  have hfilled := filled_lines_written h.paragraphed h.newline_notMem
  rw [← h.render_eq, hl, show Text.filled [[]] = [] from rfl, List.nil_append] at hfilled
  rw [hsame] at hlength
  have hlt := length_filled_tail_lt
    (by omega : 0 < (Text.filled (messageLines m.render).tail).length)
  rw [hfilled] at hlt
  omega

/-- A line that loses a carriage return would not get it back. -/
theorem IsRead.unixLines_of_render_eq : Text.unixLines m.render = m.render := by
  obtain ⟨qs, hq, -, hreturns⟩ := isRead_of_parse hr
  obtain ⟨hline, hsame⟩ := (h.render_eq_iff hq).mp hs
  by_cases hl : m.header.line = []
  · have hnil := h.eq_nil_of_render_eq hr hs hl
    rw [h.render_eq, hl, hnil]
    rfl
  · rw [hsame, h.render_eq] at hreturns
    rw [h.render_eq]
    exact unixLines_written h.paragraphed h.newline_notMem hl (Header.getLast?_line_ne h.tidy)
      hreturns

end Again

/-- A message that reading and writing leave alone once it is written. -/
structure Settled (m : Message) : Prop where
  unix : Text.unixLines m.render = m.render
  header : Header.IsWritten m.header.render
  headed : m.header.render = [] → m.body = [] ∧ m.footers = []
  tokens : ∀ f ∈ m.footers.rtakeWhile Footer.isReadable,
    Footer.normalizeToken f.token = f.token

/-- Reading and writing once more leaves a message that was read alone exactly if it is settled. -/
theorem render_reread_iff (s : Text) :
    ∃ m, parse .standard s = .ok m ∧ ∃ r, parse .standard m.render = .ok r ∧
      (r.render = m.render ↔ m.Settled) := by
  obtain ⟨m, hm⟩ := exists_parse s
  obtain ⟨r, hr⟩ := exists_parse m.render
  obtain ⟨ps, h, -, -⟩ := isRead_of_parse hm
  obtain ⟨qs, hq, -, -⟩ := isRead_of_parse hr
  have hheader : m.header.render = m.header.line := Header.render_eq_line h.unpainted_header
  have hparts : ps ++ footerParagraphs m.footers = [] ↔ m.body = [] ∧ m.footers = [] := by
    have hps := h.paragraphed.sublist (List.sublist_append_left ps _)
    rw [h.body, hps.joinParagraphs_eq_nil_iff, List.append_eq_nil_iff, footerParagraphs,
      List.map_eq_nil_iff]
  refine ⟨m, hm, r, hr, ?_⟩
  constructor
  · intro hs
    have hu := h.unixLines_of_render_eq hr hs
    by_cases hl : m.header.line = []
    · have hnil := hparts.mp (h.eq_nil_of_render_eq hr hs hl)
      refine ⟨hu, ?_, fun _ => hnil, ?_⟩
      · rw [hheader, hl]
        exact Header.isWritten_nil
      · rw [hnil.2]
        simp
    · obtain ⟨hwritten, htokens⟩ := (h.render_eq_iff_of_unixLines hl hu hr).mp hs
      exact ⟨hu, hheader ▸ hwritten, fun h0 => absurd (hheader ▸ h0) hl, htokens⟩
  · rintro ⟨hu, hwritten, hheaded, htokens⟩
    rw [hheader] at hwritten hheaded
    by_cases hl : m.header.line = []
    · have hrender : m.render = [] := by
        rw [h.render_eq, hl, hparts.mpr (hheaded hl)]
        rfl
      rw [hrender] at hr ⊢
      obtain rfl := Except.ok.inj hr
      rfl
    · exact (h.render_eq_iff_of_unixLines hl hu hr).mpr ⟨hwritten, htokens⟩

/-- An empty label is left out, and what it stood before is read as a label. -/
theorem render_reread_emptyLabel :
    ∃ m, parse .standard ":a:b".toList = .ok m ∧ ∃ r, parse .standard m.render = .ok r ∧
      m.render = "a:b".toList ∧ r.render = "a: b".toList ∧ r.render ≠ m.render :=
  ⟨_, rfl, _, rfl, by decide +kernel, by decide +kernel, by decide +kernel⟩

end Message

end CommitStandard
