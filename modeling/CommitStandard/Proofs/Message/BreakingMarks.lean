import Mathlib.Tactic
import CommitStandard.Proofs.Message.Stability
import CommitStandard.Proofs.Message.Toggling

/-!
# What the written form says of a breaking change

A message keeps in its header whether it announces a breaking change, but only a
header with a type or scopes is written with the mark before the colon, and a
footer is read again only if all those after it are. `Message.showsBreaking` is
what can be seen in the written form, and reading finds exactly that
(`IsRead.isBreaking_of_parse_render`). Announcing and taking back any number of
times leaves a message that was read in the form that reading gives
(`IsToggled.toggled`).
-/
namespace CommitStandard

namespace Footer

/-- A token is not put into the spelling of a token that announces a breaking change: the
normal spelling of other tokens has capital letters only at its beginning. -/
theorem contains_strip_of_normalizeToken {t : Text}
    (h : breakingTokens.contains (normalizeToken t) = true) :
    breakingTokens.contains (Text.strip t) = true := by
  unfold normalizeToken at h
  dsimp only at h
  split at h
  · exact h
  · have hcapital : ∀ token ∈ breakingTokens, 'K' ∈ token.drop 3 := by decide
    have hdrop := hcapital _ (List.contains_iff_mem.mp h)
    exact absurd (Text.asciiUpper_of_mem_drop_sentenceKebab hdrop) (by decide)

theorem Tidy.strip_token {f : Footer} (hf : f.Tidy) : Text.strip f.token = f.token := by
  by_cases hb : f.token = breakingToken
  · rw [hb]
    decide
  · refine Text.strip_eq_self_of_forall fun c hc => ?_
    rw [← Bool.not_eq_true]
    exact fun hblank => hb (hf.token_plain c hc (Text.isSign_of_isBlank hblank))

/-- Reading a footer again neither makes nor loses an announcement. -/
theorem Tidy.isBreaking_make {f : Footer} (hf : f.Tidy) :
    (make f.token f.text).isBreaking = f.isBreaking := by
  have hnormal : ∀ token ∈ breakingTokens, normalizeToken token = token := by decide
  rw [isBreaking, isBreaking, Bool.eq_iff_iff]
  constructor
  · intro h
    have := contains_strip_of_normalizeToken h
    rwa [hf.strip_token] at this
  · intro h
    show breakingTokens.contains (normalizeToken f.token) = true
    rwa [hnormal _ (List.contains_iff_mem.mp h)]

theorem any_isBreaking_make {fs : List Footer} (h : ∀ f ∈ fs, f.Tidy) :
    (fs.map fun f => make f.token f.text).any isBreaking = fs.any isBreaking := by
  induction fs with
  | nil => rfl
  | cons f fs ih =>
    rw [List.map_cons, List.any_cons, List.any_cons, (h f List.mem_cons_self).isBreaking_make,
      ih fun g hg => h g (List.mem_cons_of_mem f hg)]

end Footer

namespace Header

theorem options_of_parse {options : HeaderOptions} (hd : options.scopeDelimiter = [','])
    {line : Text} (hn : '\n' ∉ line) {h : Header} (hp : parse options line = .ok h) :
    h.options = options := by
  obtain ⟨ns, rest, label, subject, -, -, hparse⟩ := parse_cases hd hn
  rw [hp, Except.ok.injEq] at hparse
  rw [hparse]
  rfl

/-- Whether the label that is found in a line has the mark of a breaking change. -/
def readsBreaking (line : Text) : Bool :=
  (takeLabel? (takeNameSpace (Text.strip line)).2).any fun found => found.1.breaking

theorem breaking_of_parse {options : HeaderOptions} (hd : options.scopeDelimiter = [','])
    {line : Text} (hn : '\n' ∉ line) {h : Header} (hp : parse options line = .ok h) :
    h.breaking = readsBreaking line := by
  obtain ⟨ns, rest, label, subject, hns, hlabel, hparse⟩ := parse_cases hd hn
  rw [hp, Except.ok.injEq] at hparse
  have hbreaking : h.breaking = label.breaking := by rw [hparse]; rfl
  rw [hbreaking, readsBreaking, hns]
  rcases hlabel with hsome | ⟨hnone, rfl, -⟩
  · rw [hsome]
    rfl
  · rw [hnone]
    rfl

/-- Whether the line of a header shows the mark of a breaking change. The mark that is kept for
a header without type and scopes is not written, but the subject may read as a label with one. -/
def showsBreaking (h : Header) : Bool :=
  if h.isLabelled then h.breaking else readsBreaking h.line

theorem breaking_of_parse_line {h r : Header} (ht : h.Tidy)
    (hr : parse .standard h.line = .ok r) : r.breaking = h.showsBreaking := by
  unfold showsBreaking
  split
  · rename_i hl
    rw [parse_line (legible_of_isLabelled ht hl) rfl, Except.ok.injEq] at hr
    rw [← hr]
  · exact breaking_of_parse rfl (newline_notMem_line ht) hr

section Marking

variable {emoji subject : Text} {c : Char}

theorem strip_addEmoji (hs : Text.strip subject = subject) :
    Text.strip (addEmoji emoji subject) = addEmoji emoji subject := by
  unfold addEmoji
  split
  · exact hs
  · exact Text.strip_strip _

theorem mem_of_mem_addEmoji (h : c ∈ addEmoji emoji subject) :
    c ∈ subject ∨ c = ' ' ∨ c ∈ emoji := by
  unfold addEmoji at h
  split at h
  · exact Or.inl h
  · simpa using Text.mem_of_mem_strip h

theorem removeEmoji_isPrefix (emoji subject : Text) : removeEmoji emoji subject <+: subject := by
  unfold removeEmoji
  split
  · exact (List.rdropWhile_prefix Text.isBlank _).trans (List.take_prefix _ subject)
  · exact List.prefix_refl subject

theorem strip_removeEmoji (hs : Text.strip subject = subject) :
    Text.strip (removeEmoji emoji subject) = removeEmoji emoji subject := by
  refine Text.strip_eq_self (fun c hc => ?_) fun c hc => ?_
  · obtain ⟨t, ht⟩ := removeEmoji_isPrefix emoji subject
    exact Text.head?_of_strip hs (by rw [← ht, List.head?_append, hc]; rfl)
  · unfold removeEmoji at hc
    split at hc
    · exact Text.getLast?_rdropWhile hc
    · exact Text.getLast?_of_strip hs hc

end Marking

/-- The marks leave a header tidy. -/
theorem Tidy.setBreaking {h : Header} (ht : h.Tidy) (he : '\n' ∉ h.options.breakingEmoji)
    (wanted : Bool) : (h.setBreaking wanted).Tidy := by
  unfold Header.setBreaking
  split
  · exact ht
  · split
    · exact { ht with
        subject_trimmed := strip_addEmoji ht.subject_trimmed
        subject_line := fun hc => by
          rcases mem_of_mem_addEmoji hc with hc | hc | hc
          · exact ht.subject_line hc
          · exact absurd hc (by decide)
          · exact he hc }
    · exact { ht with
        subject_trimmed := strip_removeEmoji ht.subject_trimmed
        subject_line := fun hc => ht.subject_line ((removeEmoji_isPrefix _ _).subset hc) }

@[simp] theorem options_setBreaking (h : Header) (wanted : Bool) :
    (h.setBreaking wanted).options = h.options := by
  unfold setBreaking
  split
  · rfl
  · split <;> rfl

@[simp] theorem styles_setBreaking (h : Header) (wanted : Bool) :
    (h.setBreaking wanted).styles = h.styles := by
  unfold setBreaking
  split
  · rfl
  · split <;> rfl

end Header

namespace Message

variable {m r : Message} {ps : List (List Text)}

/-- The message after so many calls that announce a breaking change or take it back, none of
which gives a text. -/
def toggled (m : Message) (n : Nat) : Message := (fun r => r.toggleBreaking none)^[n] m

theorem toggled_succ (m : Message) (n : Nat) :
    m.toggled (n + 1) = (m.toggled n).toggleBreaking none :=
  Function.iterate_succ_apply' _ _ _

/-- What a message has that was read and in which nothing but announcements has changed. -/
structure IsToggled (m : Message) (ps : List (List Text)) : Prop extends IsRead m ps where
  options : m.header.options = .standard
  /-- No text has been given for a breaking change. -/
  quiet : m.breakingText = none

theorem IsToggled.toggleBreaking (h : m.IsToggled ps) : (m.toggleBreaking none).IsToggled ps := by
  -- A call without a text adds no footer, so that it leaves some of the footers there are.
  obtain ⟨wanted, footers, hsub, hm⟩ : ∃ wanted footers, List.Sublist footers m.footers ∧
      m.toggleBreaking none =
        { m with header := m.header.setBreaking wanted, footers := footers } := by
    cases hb : m.isBreaking with
    | true => exact ⟨false, _, List.filter_sublist, toggleBreaking_of_isBreaking hb none⟩
    | false =>
      have hnone : m.announcedText none = none := h.quiet
      have hno : announcement none = [] := rfl
      refine ⟨true, m.footers, List.Sublist.refl _, ?_⟩
      rw [toggleBreaking_of_not_isBreaking hb, hnone, hno, List.append_nil, ← h.quiet]
  have hemoji : '\n' ∉ m.header.options.breakingEmoji := by
    rw [h.options]
    decide
  rw [hm]
  exact {
    tidy := h.tidy.setBreaking hemoji wanted
    unpainted_header := fun field t => by
      rw [Header.styles_setBreaking]
      exact h.unpainted_header field t
    body := h.body
    unpainted_body := h.unpainted_body
    last := h.last
    tidy_footer := fun f hf => h.tidy_footer f (hsub.subset hf)
    unpainted_footer := fun f hf => h.unpainted_footer f (hsub.subset hf)
    paragraphed := h.paragraphed.sublist ((List.Sublist.refl ps).append (hsub.map _))
    options := (Header.options_setBreaking _ _).trans h.options
    quiet := h.quiet }

theorem IsToggled.toggled (h : m.IsToggled ps) (n : Nat) : (m.toggled n).IsToggled ps := by
  induction n with
  | zero => exact h
  | succ n ih =>
    rw [toggled_succ]
    exact ih.toggleBreaking

theorem isToggled_of_parse {s : Text} (hm : parse .standard s = .ok m) :
    ∃ ps, m.IsToggled ps := by
  obtain ⟨ps, h, -, -⟩ := isRead_of_parse hm
  have hplain := newline_notMem_headD s
  obtain ⟨k, hk⟩ := Header.exists_parse_standard hplain
  rw [parse_eq_lines, hk] at hm
  obtain rfl := Except.ok.inj hm
  exact ⟨ps, h, Header.options_of_parse rfl hplain hk, rfl⟩

/-- What can be seen of a breaking change in the written form: a mark before the colon, or a
footer that is read again. -/
def showsBreaking (m : Message) : Bool :=
  m.header.showsBreaking || (m.footers.rtakeWhile Footer.isReadable).any Footer.isBreaking

/-- Reading finds what can be seen in the written form. -/
theorem IsRead.isBreaking_of_parse_render (h : IsRead m ps)
    (hl : m.header.line = [] → m.body = [] ∧ m.footers = [])
    (hu : Text.unixLines m.render = m.render) (hr : parse .standard m.render = .ok r) :
    r.isBreaking = m.showsBreaking := by
  obtain ⟨k, hk⟩ := Header.exists_parse_standard h.newline_notMem
  have hbreaking := Header.breaking_of_parse_line h.tidy hk
  have hread : ∀ f ∈ m.footers.rtakeWhile Footer.isReadable, f.Tidy :=
    fun f hf => h.tidy_footer f ((List.rtakeWhile_suffix _ _).subset hf)
  have hfooters := Footer.any_isBreaking_make hread
  by_cases h0 : m.header.line = []
  · -- Nothing is written and nothing is read.
    obtain ⟨hbody, hnone⟩ := hl h0
    have hrender : m.render = [] := by
      rw [h.render_eq, h0, h.body_eq_nil_iff.mp hbody, hnone]
      rfl
    rw [h0] at hk
    rw [hrender] at hr
    obtain rfl := Except.ok.inj hr
    rw [showsBreaking, ← hbreaking, hnone, ← Except.ok.inj hk]
    rfl
  · have hparse := parse_written h.paragraphed h0 h.newline_notMem (by rw [← h.render_eq, hu]) hk
    rw [← h.render_eq, hr, h.splitFooters_eq, Except.ok.injEq] at hparse
    rw [hparse, showsBreaking, ← hbreaking, ← hfooters]
    rfl

/-- A header with a type or scopes shows what it keeps; footers do if all of them are read. -/
theorem showsBreaking_of_isLabelled (hl : m.header.isLabelled = true)
    (hf : ∀ f ∈ m.footers, f.isReadable = true) : m.showsBreaking = m.isBreaking := by
  rw [showsBreaking, Header.showsBreaking, if_pos hl, List.rtakeWhile_eq_self_iff.mpr hf,
    isBreaking]

/-- A message is read, announcements are made and taken back, and it is written and read again.
Unless the header has nothing to be written or a line break changes, what the message announces
is kept exactly if it can be seen in the written form. -/
theorem isBreaking_reread_iff (s : Text) (n : Nat) :
    ∃ m, parse .standard s = .ok m ∧ ∃ r, parse .standard (m.toggled n).render = .ok r ∧
      (((m.toggled n).header.render = [] →
          (m.toggled n).body = [] ∧ (m.toggled n).footers = []) →
        Text.unixLines (m.toggled n).render = (m.toggled n).render →
        (r.isBreaking = (m.toggled n).isBreaking ↔
          (m.toggled n).showsBreaking = (m.toggled n).isBreaking)) := by
  obtain ⟨m, hm⟩ := exists_parse s
  obtain ⟨r, hr⟩ := exists_parse (m.toggled n).render
  obtain ⟨ps, h⟩ := isToggled_of_parse hm
  have hn := h.toggled n
  refine ⟨m, hm, r, hr, fun hl hu => ?_⟩
  rw [Header.render_eq_line hn.unpainted_header] at hl
  rw [hn.isBreaking_of_parse_render hl hu hr]

/-- With a type or scopes in the header and footers that can all be read, what a message
announces is never lost. -/
theorem isBreaking_reread_of_isLabelled {s : Text} (hm : parse .standard s = .ok m) (n : Nat)
    (hl : (m.toggled n).header.isLabelled = true)
    (hf : ∀ f ∈ (m.toggled n).footers, f.isReadable = true)
    (hu : Text.unixLines (m.toggled n).render = (m.toggled n).render)
    (hr : parse .standard (m.toggled n).render = .ok r) :
    r.isBreaking = (m.toggled n).isBreaking := by
  obtain ⟨ps, h⟩ := isToggled_of_parse hm
  have hline := Header.line_ne_nil hl
  rw [(h.toggled n).isBreaking_of_parse_render (fun h0 => absurd h0 hline) hu hr,
    showsBreaking_of_isLabelled hl hf]

theorem isBreaking_reread_addParser :
    ∃ m, parse .standard "feat: Add parser".toList = .ok m ∧
      ∃ r, parse .standard (m.toggled 1).render = .ok r ∧
        (r.isBreaking = (m.toggled 1).isBreaking ↔
          (m.toggled 1).showsBreaking = (m.toggled 1).isBreaking) := by
  obtain ⟨m, hm, r, hr, h⟩ := isBreaking_reread_iff "feat: Add parser".toList 1
  obtain rfl := Except.ok.inj hm
  exact ⟨_, rfl, r, hr, h (by decide +kernel) (by decide +kernel)⟩

/-- A header without type and scopes is marked, but its line does not show it. -/
theorem isBreaking_lost_withoutLabel :
    ∃ m, parse .standard "Add X".toList = .ok m ∧
      ∃ r, parse .standard (m.toggled 1).render = .ok r ∧
        (m.toggled 1).isBreaking = true ∧ r.isBreaking = false :=
  ⟨_, rfl, _, rfl, by decide +kernel, by decide +kernel⟩

end Message

end CommitStandard
