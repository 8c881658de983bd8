import Mathlib.Tactic
import CommitStandard.Proofs.Footer.RoundTrip
import CommitStandard.Proofs.Message.Paragraphs

/-!
# Body and footers

Paragraphs are split after the last one that has a line other than footers
(`HasText`). The two parts are determined by that: the lines after the split are
those of the footers, one for one (`splitFooters_append`, `splitFooters_spec`).
Footers that were read are written as paragraphs of one line each, so they are
split off again from the end up to the first that cannot be read.
-/
namespace CommitStandard

section Steps

variable {ε α β : Type} {f : α → Except ε β} {l : List α}

/-- Steps that can fail all succeed exactly if each of them does. -/
theorem mapM_eq_ok_iff {bs : List β} :
    l.mapM f = .ok bs ↔ List.Forall₂ (fun a b => f a = .ok b) l bs := by
  induction l generalizing bs with
  | nil =>
    rw [List.mapM_nil, List.forall₂_nil_left_iff]
    constructor
    · intro h
      exact (Except.ok.inj h).symm
    · rintro rfl
      rfl
  | cons a l ih =>
    rw [List.mapM_cons, List.forall₂_cons_left_iff]
    constructor
    · intro h
      cases ha : f a with
      | error e =>
        rw [ha] at h
        cases h
      | ok b =>
        rw [ha] at h
        cases hl : l.mapM f with
        | error e =>
          rw [hl] at h
          cases h
        | ok rest =>
          rw [hl] at h
          exact ⟨b, rest, rfl, ih.mp hl, (Except.ok.inj h).symm⟩
    · rintro ⟨b, rest, ha, hl, rfl⟩
      rw [ha, ih.mpr hl]
      rfl

theorem exists_mapM_iff : (∃ bs, l.mapM f = .ok bs) ↔ ∀ a ∈ l, ∃ b, f a = .ok b := by
  simp only [mapM_eq_ok_iff]
  induction l with
  | nil => simp
  | cons a l ih =>
    simp only [List.forall₂_cons_left_iff, List.forall_mem_cons, ← ih]
    constructor
    · rintro ⟨_, b, bs, ha, hl, rfl⟩
      exact ⟨⟨b, ha⟩, bs, hl⟩
    · rintro ⟨⟨b, ha⟩, bs, hl⟩
      exact ⟨b :: bs, b, bs, ha, hl, rfl⟩

/-- What the steps yield is what any of them yields. -/
theorem mem_iff_of_mapM {bs : List β} (h : l.mapM f = .ok bs) {b : β} :
    b ∈ bs ↔ ∃ a ∈ l, f a = .ok b := by
  induction mapM_eq_ok_iff.mp h with
  | nil => simp
  | @cons a b' l bs ha hl ih => simp [ha, ih (mapM_eq_ok_iff.mpr hl), eq_comm]

end Steps

namespace Footer

/-- The lines are those of the footers. -/
def Reads (ls : List Text) (fs : List Footer) : Prop :=
  List.Forall₂ (fun l f => parse l = .ok f) ls fs

theorem parseAll_eq_ok_iff {ls : List Text} {fs : List Footer} :
    parseAll ls = .ok fs ↔ Reads ls fs :=
  mapM_eq_ok_iff

theorem exists_reads {ls : List Text} (h : ∀ l ∈ ls, ∃ f, parse l = .ok f) : ∃ fs, Reads ls fs := by
  obtain ⟨fs, hfs⟩ := exists_mapM_iff.mpr h
  exact ⟨fs, parseAll_eq_ok_iff.mp hfs⟩

theorem Reads.exists_of_mem {ls : List Text} {fs : List Footer} (h : Reads ls fs) {l : Text}
    (hl : l ∈ ls) : ∃ f ∈ fs, parse l = .ok f := by
  have hall := parseAll_eq_ok_iff.mpr h
  obtain ⟨f, hf⟩ := exists_mapM_iff.mp ⟨fs, hall⟩ l hl
  exact ⟨f, (mem_iff_of_mapM hall).mpr ⟨l, hl, hf⟩, hf⟩

theorem Reads.exists_of_mem_right {ls : List Text} {fs : List Footer} (h : Reads ls fs)
    {f : Footer} (hf : f ∈ fs) : ∃ l, parse l = .ok f := by
  obtain ⟨l, -, hl⟩ := (mem_iff_of_mapM (parseAll_eq_ok_iff.mpr h)).mp hf
  exact ⟨l, hl⟩

theorem Reads.append {ls ks : List Text} {fs gs : List Footer} (h : Reads ls fs)
    (h' : Reads ks gs) : Reads (ls ++ ks) (fs ++ gs) :=
  List.rel_append h h'

theorem reads_append_left {ls ks : List Text} {fs : List Footer} (h : Reads (ls ++ ks) fs) :
    ∃ gs hs, fs = gs ++ hs ∧ Reads ls gs ∧ Reads ks hs := by
  induction ls generalizing fs with
  | nil => exact ⟨[], fs, rfl, List.Forall₂.nil, h⟩
  | cons l ls ih =>
    obtain ⟨f, fs', hl, hrest, rfl⟩ := List.forall₂_cons_left_iff.mp h
    obtain ⟨gs, hs, rfl, hgs, hhs⟩ := ih hrest
    exact ⟨f :: gs, hs, rfl, List.Forall₂.cons hl hgs, hhs⟩

theorem reads_map {fs gs : List Footer} {line : Footer → Text} {read : Footer → Footer}
    (h : ∀ f ∈ fs, parse (line f) = .ok (read f)) (hg : gs = fs.map read) :
    Reads (fs.map line) gs := by
  subst hg
  unfold Reads
  rw [List.forall₂_map_left_iff, List.forall₂_map_right_iff, List.forall₂_same]
  exact h

end Footer

namespace Message

open Footer (Reads)

/-- A paragraph with a line that is no footer. -/
def HasText (p : List Text) : Prop := ∃ l ∈ p, ∀ f, Footer.parse l ≠ .ok f

theorem HasText.parseAll_ne_ok {p : List Text} (h : HasText p) (fs : List Footer) :
    Footer.parseAll p ≠ .ok fs := by
  intro hp
  obtain ⟨l, hl, hno⟩ := h
  obtain ⟨f, -, hf⟩ := (Footer.parseAll_eq_ok_iff.mp hp).exists_of_mem hl
  exact hno f hf

theorem hasText_of_parseAll {p : List Text} {e : InvalidFooter}
    (h : Footer.parseAll p = .error e) : HasText p := by
  by_contra hno
  have hall : ∀ l ∈ p, ∃ f, Footer.parse l = .ok f := by
    intro l hl
    by_contra hf
    exact hno ⟨l, hl, fun f hp => hf ⟨f, hp⟩⟩
  obtain ⟨fs, hfs⟩ := Footer.exists_reads hall
  rw [Footer.parseAll_eq_ok_iff.mpr hfs] at h
  exact absurd h (by simp)

/-- Blocks of footer lines are read one after the other from the end. -/
theorem takeFooters_append {blocks : List (List Text)} {gs : List Footer}
    (h : Reads blocks.flatten gs) (found : List Footer) (ps : List (List Text)) :
    takeFooters found (blocks.reverse ++ ps) = takeFooters (gs ++ found) ps := by
  induction blocks generalizing gs ps with
  | nil =>
    obtain rfl := List.forall₂_nil_left_iff.mp h
    rfl
  | cons b blocks ih =>
    rw [List.flatten_cons] at h
    obtain ⟨fs, hs, rfl, hb, hrest⟩ := Footer.reads_append_left h
    rw [List.reverse_cons, List.append_assoc, ih hrest, List.singleton_append, takeFooters,
      Footer.parseAll_eq_ok_iff.mpr hb]
    simp

theorem takeFooters_of_hasText {p : List Text} (h : HasText p) (found : List Footer)
    (ps : List (List Text)) : takeFooters found (p :: ps) = ((p :: ps).reverse, found) := by
  rw [takeFooters]
  split
  · rename_i fs hfs
    exact absurd hfs (h.parseAll_ne_ok fs)
  · rfl

/-- Paragraphs are split after the last one with text. -/
theorem splitFooters_append {body blocks : List (List Text)} {gs : List Footer}
    (hb : ∀ p, body.getLast? = some p → HasText p) (hr : Reads blocks.flatten gs) :
    splitFooters (body ++ blocks) = (body, gs) := by
  rw [splitFooters, List.reverse_append, takeFooters_append hr, List.append_nil]
  rcases List.eq_nil_or_concat body with rfl | ⟨ps, p, rfl⟩
  · rfl
  · rw [List.concat_eq_append] at hb ⊢
    rw [List.reverse_append, List.reverse_singleton, List.singleton_append,
      takeFooters_of_hasText (hb p (by simp))]
    simp

theorem takeFooters_spec (found : List Footer) (ps : List (List Text)) :
    ∃ body blocks gs, takeFooters found ps = (body, gs ++ found) ∧ ps.reverse = body ++ blocks ∧
      Reads blocks.flatten gs ∧ ∀ p, body.getLast? = some p → HasText p := by
  induction ps generalizing found with
  | nil => exact ⟨[], [], [], rfl, rfl, List.Forall₂.nil, by simp⟩
  | cons p ps ih =>
    cases hp : Footer.parseAll p with
    | ok fs =>
      obtain ⟨body, blocks, gs, htake, hrev, hreads, hbody⟩ := ih (fs ++ found)
      refine ⟨body, blocks ++ [p], gs ++ fs, ?_, ?_, ?_, hbody⟩
      · rw [takeFooters, hp, List.append_assoc]
        exact htake
      · rw [List.reverse_cons, hrev, List.append_assoc]
      · rw [List.flatten_append, List.flatten_singleton]
        exact hreads.append (Footer.parseAll_eq_ok_iff.mp hp)
    | error e =>
      have htext := hasText_of_parseAll hp
      refine ⟨(p :: ps).reverse, [], [], takeFooters_of_hasText htext found ps, by simp,
        List.Forall₂.nil, ?_⟩
      intro q hq
      rw [List.getLast?_reverse] at hq
      rw [← Option.some.inj hq]
      exact htext

/-- Every splitting is one after the last paragraph with text. -/
theorem splitFooters_spec (ps : List (List Text)) :
    ∃ blocks, ps = (splitFooters ps).1 ++ blocks ∧ Reads blocks.flatten (splitFooters ps).2 ∧
      ∀ p, (splitFooters ps).1.getLast? = some p → HasText p := by
  obtain ⟨body, blocks, gs, htake, hrev, hreads, hbody⟩ := takeFooters_spec [] ps.reverse
  rw [List.append_nil] at htake
  rw [splitFooters, htake]
  rw [List.reverse_reverse] at hrev
  exact ⟨blocks, hrev, hreads, hbody⟩

def footerParagraphs (fs : List Footer) : List (List Text) := fs.map fun f => [f.plain]

@[simp] theorem flatten_footerParagraphs (fs : List Footer) :
    (footerParagraphs fs).flatten = fs.map Footer.plain := by
  induction fs with
  | nil => rfl
  | cons f fs ih => simpa [footerParagraphs] using ih

@[simp] theorem footerParagraphs_append (fs gs : List Footer) :
    footerParagraphs (fs ++ gs) = footerParagraphs fs ++ footerParagraphs gs :=
  List.map_append

theorem mem_footerParagraphs {fs : List Footer} {p : List Text} (h : p ∈ footerParagraphs fs) :
    ∃ f ∈ fs, p = [f.plain] := by
  obtain ⟨f, hf, rfl⟩ := List.mem_map.mp h
  exact ⟨f, hf, rfl⟩

theorem footerParagraphs_plain {fs : List Footer} (ht : ∀ f ∈ fs, f.Tidy) :
    ∀ p ∈ footerParagraphs fs, p ≠ [] ∧ ∀ l ∈ p, '\n' ∉ l ∧ Text.isBlankText l = false := by
  intro p hp
  obtain ⟨f, hf, rfl⟩ := mem_footerParagraphs hp
  refine ⟨by simp, fun l hl => ?_⟩
  rw [List.mem_singleton.mp hl]
  exact ⟨(ht f hf).newline_notMem_plain, Footer.isBlankText_plain f⟩

theorem footerParagraphs_eq (fs : List Footer) :
    footerParagraphs fs = footerParagraphs (fs.rdropWhile Footer.isReadable) ++
      footerParagraphs (fs.rtakeWhile Footer.isReadable) := by
  rw [← footerParagraphs_append, List.rdropWhile_append_rtakeWhile]

/-- The line of a footer that cannot be read is text. -/
theorem hasText_of_isReadable {f : Footer} (h : f.isReadable = false) : HasText [f.plain] := by
  refine ⟨f.plain, by simp, fun g hg => ?_⟩
  rw [Footer.isReadable, hg] at h
  exact absurd h (by simp [Except.isOk, Except.toBool])

section Written

variable {fs : List Footer}

theorem hasText_unreadable (hne : fs.rdropWhile Footer.isReadable ≠ []) (ps : List (List Text))
    {p : List Text}
    (hp : (ps ++ footerParagraphs (fs.rdropWhile Footer.isReadable)).getLast? = some p) :
    HasText p := by
  have hlast := List.rdropWhile_last_not Footer.isReadable fs hne
  rw [List.getLast?_append_of_ne_nil _ (by simpa [footerParagraphs] using hne), footerParagraphs,
    List.getLast?_map, List.getLast?_eq_some_getLast hne] at hp
  rw [← Option.some.inj hp]
  exact hasText_of_isReadable (by simpa using hlast)

theorem reads_readable (ht : ∀ f ∈ fs, f.Tidy) :
    Reads (footerParagraphs (fs.rtakeWhile Footer.isReadable)).flatten
      ((fs.rtakeWhile Footer.isReadable).map fun f => Footer.make f.token f.text) := by
  rw [flatten_footerParagraphs]
  refine Footer.reads_map (fun f hf => ?_) rfl
  have htidy := ht f ((List.rtakeWhile_suffix _ _).subset hf)
  have htoken := htidy.isReadable_iff.mp (List.mem_rtakeWhile_imp hf)
  exact htidy.parse_plain_iff.mpr ⟨htoken, rfl⟩

/-- Written footers after a body are split off again up to the first that cannot be read. -/
theorem splitFooters_append_footers (ht : ∀ f ∈ fs, f.Tidy) {ps : List (List Text)}
    (hlast : ∀ p, ps.getLast? = some p → HasText p) :
    splitFooters (ps ++ footerParagraphs fs) =
      (ps ++ footerParagraphs (fs.rdropWhile Footer.isReadable),
        (fs.rtakeWhile Footer.isReadable).map fun f => Footer.make f.token f.text) := by
  rw [footerParagraphs_eq, ← List.append_assoc]
  apply splitFooters_append
  · intro p hp
    by_cases hfront : fs.rdropWhile Footer.isReadable = []
    · rw [hfront] at hp
      exact hlast p (by simpa [footerParagraphs] using hp)
    · exact hasText_unreadable hfront ps hp
  · exact reads_readable ht

/-- Written footers are in the body again up to the last that cannot be read. Only if all can be
read, paragraphs before them may be split off as well. -/
theorem splitFooters_footerParagraphs (ht : ∀ f ∈ fs, f.Tidy) (ps : List (List Text)) :
    ∃ body, (splitFooters (ps ++ footerParagraphs fs)).1 =
        body ++ footerParagraphs (fs.rdropWhile Footer.isReadable) ∧ body <+: ps := by
  have hreads := reads_readable ht
  rw [footerParagraphs_eq, ← List.append_assoc]
  by_cases hfront : fs.rdropWhile Footer.isReadable = []
  · obtain ⟨body, blocks, gs, htake, hrev, -, -⟩ := takeFooters_spec
      ((fs.rtakeWhile Footer.isReadable).map fun f => Footer.make f.token f.text) ps.reverse
    rw [List.reverse_reverse] at hrev
    refine ⟨body, ?_, ⟨blocks, hrev.symm⟩⟩
    rw [hfront, footerParagraphs, List.map_nil, List.append_nil, List.append_nil, splitFooters,
      List.reverse_append, takeFooters_append hreads, List.append_nil, htake]
  · refine ⟨ps, ?_, List.prefix_refl ps⟩
    rw [splitFooters_append (fun p hp => hasText_unreadable hfront ps hp) hreads]

end Written

end Message

end CommitStandard
