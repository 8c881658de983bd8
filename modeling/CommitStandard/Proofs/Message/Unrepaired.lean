import Mathlib.Tactic
import CommitStandard.Proofs.Header.RoundTrip
import CommitStandard.Proofs.Message.Stability
import CommitStandard.Proofs.Message.WritingBack

/-!
# Messages that checking rewrites

A message that was read has trimmed fields, distinct scopes and footers with trimmed
texts, so that of its parts only the tokens can change when their values are
written back. They do where normalizing a token once more changes it, which makes
`render_process_iff` an equivalence.
-/
namespace CommitStandard

/-- Reading a line trims the fields of the header and gives it no paint. -/
theorem Header.eq_make_of_parse {options : HeaderOptions} {line : Text} {h : Header}
    (hp : parse options line = .ok h) : ∃ ns type scopes subject breaking,
      h = make options ns type scopes subject breaking ∧
      Text.strip ns = ns ∧ Text.strip type = type ∧ Text.strip subject = subject := by
  obtain ⟨ns, rest, label, subject, -, hlabel, hk⟩ := parse_spec hp
  have htype : ∀ c ∈ label.type, Text.isWord c = true := by
    cases ht : takeLabel? rest with
    | none =>
      rw [ht] at hlabel
      simp [← (Prod.mk.inj hlabel).1]
    | some found =>
      rw [ht, Option.getD_some] at hlabel
      rw [hlabel] at ht
      obtain ⟨-, -, -, hword, -⟩ := takeLabel?_eq_some ht
      exact hword
  have htrim : Text.strip label.type = label.type :=
    Text.strip_eq_self_of_forall fun c hc => Text.isBlank_of_isWord (htype c hc)
  rcases hk with rfl | ⟨scopes, -, rfl⟩
  · exact ⟨_, _, _, _, _, rfl, rfl, rfl, Text.strip_strip line⟩
  · exact ⟨_, _, _, _, _, rfl, Text.strip_strip ns, htrim, Text.strip_strip subject⟩

theorem Header.distinctScopes_distinctScopes (values : List Text) :
    distinctScopes (distinctScopes values) = distinctScopes values := by
  obtain ⟨hd, hs⟩ := distinctScopes_spec values
  refine distinctScopes_eq_self (fun s h => ?_) hd
  obtain ⟨hne, v, -, rfl⟩ := hs s h
  exact ⟨hne, Text.strip_strip v⟩

namespace Footer

theorem newline_notMem_normalizeToken {t : Text} (h : '\n' ∉ t) : '\n' ∉ normalizeToken t := by
  unfold normalizeToken
  dsimp only
  split
  · exact fun hc => h (Text.mem_of_mem_strip hc)
  · exact fun hc => h (Text.mem_of_mem_strip (Text.mem_of_mem_sentenceKebab hc (by decide)))

/-- A tidy token is blank only if there is none. -/
theorem Tidy.respell_eq {f : Footer} (hf : f.Tidy) : respell f.token = normalizeToken f.token := by
  unfold respell
  split
  · rename_i hblank
    cases ht : f.token with
    | nil => rfl
    | cons c t =>
      have hc : Text.isBlank c = true := by
        rw [ht, Text.isBlankText, List.all_eq_true] at hblank
        exact hblank c List.mem_cons_self
      have hb := hf.token_plain c (by simp [ht]) (Text.isSign_of_isBlank hc)
      rw [hb] at hblank
      exact absurd hblank (by decide)
  · rfl

end Footer

namespace Text

/-- Two texts of paragraphs are the same if their first lines and what follows are. -/
theorem join_cons_inj {a b : Text} {ps qs : List Text} (ha : '\n' ∉ a) (hb : '\n' ∉ b)
    (h : ps = [] ↔ qs = []) : join "\n\n".toList (a :: ps) = join "\n\n".toList (b :: qs) ↔
      a = b ∧ join "\n\n".toList ps = join "\n\n".toList qs := by
  by_cases hp : ps = []
  · rw [hp, h.mp hp]
    simp
  · rw [join_cons _ a hp, join_cons _ b (mt h.mpr hp), List.append_assoc, List.append_assoc]
    constructor
    · intro heq
      obtain ⟨hline, hrest⟩ := eq_of_append_cons ha hb heq
      exact ⟨hline, (List.cons.inj hrest).2⟩
    · rintro ⟨rfl, hrest⟩
      rw [hrest]

/-- So many paragraphs without line feeds are determined by their text. -/
theorem join_inj {ps qs : List Text} (hlen : ps.length = qs.length) (hp : ∀ p ∈ ps, '\n' ∉ p)
    (hq : ∀ q ∈ qs, '\n' ∉ q) (h : join "\n\n".toList ps = join "\n\n".toList qs) : ps = qs := by
  induction ps generalizing qs with
  | nil => exact (List.length_eq_zero_iff.mp hlen.symm).symm
  | cons p ps ih =>
    obtain ⟨q, qs, rfl⟩ := List.exists_cons_of_length_eq_add_one hlen.symm
    have hlen' : ps.length = qs.length := by simpa using hlen
    have hnil : ps = [] ↔ qs = [] := by
      rw [← List.length_eq_zero_iff, hlen', List.length_eq_zero_iff]
    obtain ⟨rfl, hrest⟩ :=
      (join_cons_inj (hp p List.mem_cons_self) (hq q List.mem_cons_self) hnil).mp h
    rw [ih hlen' (fun r hr => hp r (List.mem_cons_of_mem p hr))
      (fun r hr => hq r (List.mem_cons_of_mem p hr)) hrest]

/-- The paragraphs after the same ones are determined by the text, if they have no line feed. -/
theorem join_append_inj {ps qs rs : List Text} (hp : ps ≠ [])
    (hlen : qs.length = rs.length) (hq : ∀ q ∈ qs, '\n' ∉ q) (hr : ∀ r ∈ rs, '\n' ∉ r)
    (h : join "\n\n".toList (ps ++ qs) = join "\n\n".toList (ps ++ rs)) : qs = rs := by
  by_cases hqs : qs = []
  · rw [hqs] at hlen ⊢
    exact (List.length_eq_zero_iff.mp hlen.symm).symm
  · have hrs : rs ≠ [] := by
      rintro rfl
      exact hqs (List.length_eq_zero_iff.mp hlen)
    rw [join_append _ hp hqs, join_append _ hp hrs] at h
    exact join_inj hlen hq hr (List.append_cancel_left h)

end Text

namespace Message

section Read

variable {options : HeaderOptions} {s : Text} {m : Message}

theorem eq_make_of_parse (hm : parse options s = .ok m) :
    ∃ header body footers, Header.parse options (headerLine s) = .ok header ∧
      m = make header body footers ∧ ∀ f ∈ footers, ∃ line, Footer.parse line = .ok f := by
  unfold parse at hm
  cases hh : Header.parse options (headerLine s) with
  | error e =>
    rw [hh] at hm
    cases hm
  | ok header =>
    rw [hh] at hm
    refine ⟨header, _, _, rfl, (Except.ok.inj hm).symm, fun f hf => ?_⟩
    obtain ⟨blocks, -, hreads, -⟩ := splitFooters_spec (paragraphsOf (afterHeader s))
    obtain ⟨line, hline⟩ := hreads.exists_of_mem_right hf
    exact ⟨line, hline⟩

theorem tidy_footer_of_parse (hm : parse options s = .ok m) {f : Footer} (hf : f ∈ m.footers) :
    f.Tidy ∧ f.style = .plain := by
  obtain ⟨header, body, footers, -, rfl, hfooters⟩ := eq_make_of_parse hm
  obtain ⟨line, hline⟩ := hfooters f hf
  exact ⟨Footer.tidy_of_parse hline, Footer.style_of_parse hline⟩

/-- Of the parts of a message that was read, writing back can change only the tokens. -/
theorem isSteady_of_parse (hm : parse options s = .ok m) {part : Part} (hp : part ≠ .trailer) :
    m.IsSteady part := by
  have htidy : ∀ f ∈ m.footers, f.Tidy := fun f hf => (tidy_footer_of_parse hm hf).1
  obtain ⟨header, body, footers, hh, rfl, -⟩ := eq_make_of_parse hm
  obtain ⟨ns, type, scopes, subject, breaking, rfl, hns, htype, hsubject⟩ :=
    Header.eq_make_of_parse hh
  cases part with
  | nameSpace => exact hns
  | type => exact htype
  | scope => exact Header.distinctScopes_distinctScopes scopes
  | subject => exact hsubject
  | footer => exact fun f hf => (htidy f hf).text_trimmed
  | trailer => exact absurd rfl hp
  | header | body | footers => trivial

theorem isSteady_trailer_iff (hm : parse options s = .ok m) :
    m.IsSteady .trailer ↔ ∀ f ∈ m.footers, Footer.normalizeToken f.token = f.token := by
  refine forall₂_congr fun f hf => ?_
  rw [(tidy_footer_of_parse hm hf).1.respell_eq]

/-- Messages that differ in the tokens of their footers are written differently. -/
theorem render_writtenBack_iff (hm : parse options s = .ok m) (e : Engine) :
    (m.writtenBack e).render = m.render ↔ m.writtenBack e = m := by
  constructor
  · intro h
    have hheader : writtenHeader e m.header = m.header :=
      writtenHeader_eq_iff.mpr fun field _ => isSteady_of_parse hm (by cases field <;> decide)
    have htext : ∀ f ∈ m.footers, e.writeBack .footer Text.strip f.text = f.text :=
      fun f hf => Engine.writeBack_eq_iff.mpr fun _ => (tidy_footer_of_parse hm hf).1.text_trimmed
    have hplain : ∀ f ∈ m.footers, (writtenFooter e f).render =
        (writtenFooter e f).plain ∧ f.render = f.plain := fun f hf =>
      ⟨Footer.render_of_style (tidy_footer_of_parse hm hf).2,
        Footer.render_of_style (tidy_footer_of_parse hm hf).2⟩
    have hline : ∀ f ∈ m.footers, '\n' ∉ (writtenFooter e f).render := by
      intro f hf hc
      have htidy := (tidy_footer_of_parse hm hf).1
      have hold := htidy.newline_notMem_plain
      rw [Footer.plain_eq] at hold
      rw [(hplain f hf).1, Footer.plain_eq, writtenFooter, htext f hf] at hc
      rcases List.mem_append.mp hc with hc | hc
      · refine Footer.newline_notMem_normalizeToken (t := f.token)
          (fun h0 => hold (List.mem_append_left _ h0)) ?_
        unfold Engine.writeBack at hc
        split at hc
        · exact absurd (List.mem_append_left _ hc) hold
        · rwa [htidy.respell_eq] at hc
      · exact hold (List.mem_append_right _ hc)
    unfold render paragraphs at h
    simp only [writtenBack, hheader] at h
    rw [← List.cons_append, ← List.cons_append] at h
    have hlines := Text.join_append_inj (by simp) (by simp) (by simpa using hline)
      (by
        intro r hr
        obtain ⟨f, hf, rfl⟩ := List.mem_map.mp hr
        rw [(hplain f hf).2]
        exact (tidy_footer_of_parse hm hf).1.newline_notMem_plain) h
    have hfooters : m.footers.map (writtenFooter e) = m.footers := by
      rw [List.map_map, List.map_inj_left] at hlines
      conv_rhs => rw [← List.map_id m.footers]
      rw [List.map_inj_left]
      intro f hf
      have hsame := hlines f hf
      rw [Function.comp_apply, (hplain f hf).1, (hplain f hf).2, Footer.plain_eq,
        Footer.plain_eq, writtenFooter, htext f hf] at hsame
      have htoken : e.writeBack .trailer Footer.respell f.token = f.token :=
        List.append_cancel_right hsame
      rw [writtenFooter, htext f hf, htoken]
      rfl
    rw [writtenBack, hheader, hfooters]
  · intro h
    rw [h]

/-- Checking writes a message that was read as before exactly if no rule is about its tokens or
all of them are in their normal spelling. -/
theorem render_process_iff (hm : parse options s = .ok m) (e : Engine)
    (files : Option ChangedFiles) :
    ∃ p, m.process e false files = .ok p ∧
      (p.message.render = m.render ↔ (e.forPart .trailer).rules = [] ∨
        ∀ f ∈ m.footers, Footer.normalizeToken f.token = f.token) := by
  refine ⟨_, process_false e files m, ?_⟩
  rw [render_writtenBack_iff hm, writtenBack_eq_iff, ← isSteady_trailer_iff hm, or_iff_not_imp_left]
  constructor
  · exact fun h => h .trailer
  · intro h part hrules
    by_cases hp : part = .trailer
    · exact hp ▸ h (hp ▸ hrules)
    · exact isSteady_of_parse hm hp

end Read

/-- A trailer that no message may have. -/
def oneForbidden : Entries :=
  [("trailer-exists".toList, .list [.int 2, .text "never".toList, .list [.text "Z".toList]])]

theorem render_process_plainToken :
    ∃ m, parse .standard "X\n\nsigned-off-by: t".toList = .ok m ∧
      ∃ p, m.process (.ofRules .lax oneForbidden) false none = .ok p ∧
        p.message.render = m.render := by
  obtain ⟨m, hm, hnormal⟩ : ∃ m, parse .standard "X\n\nsigned-off-by: t".toList = .ok m ∧
      ∀ f ∈ m.footers, Footer.normalizeToken f.token = f.token :=
    ⟨_, rfl, by decide +kernel⟩
  obtain ⟨p, hp, hsame⟩ := render_process_iff hm (.ofRules .lax oneForbidden) none
  exact ⟨m, hm, p, hp, hsame.mpr (.inr hnormal)⟩

/-- A digit between two letters is set apart from one of them at a time. -/
theorem process_respells_token :
    ∃ m, parse .standard "X\n\na1b: t".toList = .ok m ∧
      ∃ p, m.process (.ofRules .lax oneForbidden) false none = .ok p ∧ p.reports = [] ∧
        m.render = "X\n\nA-1b: t".toList ∧ p.message.render = "X\n\nA-1-b: t".toList ∧
        p.message.render ≠ m.render :=
  ⟨_, rfl, _, rfl, by decide +kernel, by decide +kernel, by decide +kernel, by decide +kernel⟩

end Message

end CommitStandard
