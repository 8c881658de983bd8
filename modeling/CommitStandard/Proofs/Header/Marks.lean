import Mathlib.Tactic
import CommitStandard.Proofs.Header.RoundTrip
import CommitStandard.Proofs.Rule.Repairing

/-!
# The exclamation mark of a header

The rule on exclamation marks looks before the first colon of a line. In the line of a
labelled header this is the colon after the label, unless the namespace or a scope has a
colon in it (`hasMark_line`). Setting the mark then marks the namespace or the scope, and
the header that is read from the repaired line is another one; without such a colon it is
the same header with the mark as demanded (`exists_parse_marked`).
-/
namespace CommitStandard

namespace Test

variable {before inside after : Text}

/-- What stands before a text has no part in its mark. -/
theorem hasMark_append (hb : ':' ∉ before) (hlast : before.getLast? ≠ some '!')
    (hi : ':' ∈ inside) (after : Text) :
    hasMark (before ++ (inside ++ after)) = hasMark inside := by
  obtain ⟨a, b, rfl, ha⟩ := List.eq_append_cons_of_mem hi
  rw [List.append_assoc, List.cons_append, ← List.append_assoc,
    hasMark_append_colon (by simp [hb, ha]), hasMark_append_colon ha, List.getLast?_append]
  cases ha : a.getLast? with
  | some c => rfl
  | none => simpa using hlast

/-- Setting the mark changes the text that the first colon is in, if its mark is another one. -/
theorem exists_setMark_append (hb : ':' ∉ before) (hne : before ≠ [])
    (hlast : before.getLast? ≠ some '!') (hi : ':' ∈ inside) (hstrip : Text.strip inside = inside)
    {wanted : Bool} (hmark : hasMark inside ≠ wanted) (after : Text) :
    ∃ changed, setMark wanted (before ++ (inside ++ after)) = before ++ (changed ++ after) ∧
      changed ≠ inside ∧ ':' ∈ changed ∧ Text.strip changed = changed ∧
      ∀ c ∈ changed, c = '!' ∨ c ∈ inside := by
  obtain ⟨a, b, rfl, ha⟩ := List.eq_append_cons_of_mem hi
  rw [hasMark_append_colon ha] at hmark
  refine ⟨withMark wanted a ++ ':' :: b, ?_, ?_, by simp, ?_, fun c hc => ?_⟩
  · rw [List.append_assoc a, List.cons_append, ← List.append_assoc before,
      setMark_append_colon (by simp [hb, ha]) (by simp [hne]), withMark_append hlast]
    simp
  · exact fun hsame => withMark_ne hmark (List.append_cancel_right hsame)
  · refine Text.strip_eq_self (fun c hc => ?_) (fun c hc => ?_)
    · rw [List.head?_append] at hc
      cases hm : (withMark wanted a).head? with
      | none =>
        rw [hm] at hc
        rw [← Option.some.inj hc]
        decide
      | some d =>
        rw [hm] at hc
        obtain rfl := Option.some.inj hc
        rcases head?_withMark hm with rfl | hd
        · decide
        · exact Text.head?_of_strip hstrip (by rw [List.head?_append, hd]; rfl)
    · rw [List.getLast?_append_of_ne_nil _ (by simp)] at hc
      exact Text.getLast?_of_strip hstrip (by rwa [List.getLast?_append_of_ne_nil _ (by simp)])
  · rcases List.mem_append.mp hc with hc | hc
    · exact (mem_withMark hc).imp_right fun h => List.mem_append_left _ h
    · exact Or.inr (List.mem_append_right _ hc)

end Test

namespace Header

variable {h : Header}

/-- The mark that the rule sees in the line: the one before the first colon. -/
def seenMark (h : Header) : Bool :=
  if ':' ∈ h.nameSpace then Test.hasMark h.nameSpace
  else if ':' ∈ h.scope then Test.hasMark h.scope
  else h.breaking

/-- What stands before the mark. -/
def stem (h : Header) : Text := h.bracketed ++ (h.type ++ h.parenthesized)

/-- The mark and what stands after it. -/
def ending (h : Header) : Text := (if h.breaking then ['!'] else []) ++ ':' :: ' ' :: h.subject

theorem line_of_nameSpace_ne_nil (hns : h.nameSpace ≠ []) :
    h.line = ['['] ++ (h.nameSpace ++ ([']', ' '] ++ h.labelledSubject)) := by
  rw [line, if_neg (by simpa using hns)]
  simp

theorem line_of_isLabelled (hl : h.isLabelled = true) : h.line = h.stem ++ h.ending := by
  rw [line_eq_append, stem, labelledSubject, if_pos hl, label, ending]
  cases h.breaking <;> simp

theorem line_withBreaking (hl : h.isLabelled = true) (b : Bool) :
    ({ h with breaking := b } : Header).line =
      h.stem ++ (if b then ['!'] else []) ++ ':' :: ' ' :: h.subject := by
  have hstem : ({ h with breaking := b } : Header).stem = h.stem := rfl
  rw [line_of_isLabelled (h := { h with breaking := b }) hl, hstem, ending, List.append_assoc]

theorem line_of_scopes_ne_nil (hs : h.scopes ≠ []) :
    h.line = h.bracketed ++ h.type ++ ['('] ++ (h.scope ++ (')' :: h.ending)) := by
  rw [line_of_isLabelled (by simp [isLabelled, hs]), stem, parenthesized,
    if_neg (by simpa using hs)]
  simp

theorem scopes_ne_nil {c : Char} (hc : c ∈ h.scope) : h.scopes ≠ [] := by
  intro h0
  rw [scope, h0] at hc
  exact absurd hc (by simp)

theorem colon_notMem_opening (hf : h.Framed) (hns : ':' ∉ h.nameSpace) :
    ':' ∉ h.bracketed ++ h.type := by
  have htype : ':' ∉ h.type := by
    intro hc
    exact absurd (hf.type_word _ hc) (by decide)
  unfold bracketed
  split <;> simp [hns, htype]

theorem colon_notMem_stem (hf : h.Framed) (hns : ':' ∉ h.nameSpace) (hscope : ':' ∉ h.scope) :
    ':' ∉ h.stem := by
  have hopening := colon_notMem_opening hf hns
  unfold stem parenthesized
  split <;> simpa [hscope] using hopening

theorem stem_ne_nil (hl : h.isLabelled = true) : h.stem ≠ [] := by
  intro h0
  simp only [stem, List.append_eq_nil_iff, parenthesized, List.isEmpty_iff, ite_eq_left_iff] at h0
  obtain ⟨-, htype, hscopes⟩ := h0
  have hs : h.scopes = [] := by
    by_contra hne
    exact absurd (hscopes hne) (by simp)
  simp [isLabelled, htype, hs] at hl

/-- What stands before the mark ends with the type or the scopes. -/
theorem getLast?_stem_ne (hf : h.Framed) (hl : h.isLabelled = true) :
    h.stem.getLast? ≠ some '!' := by
  intro hc
  by_cases hs : h.scopes = []
  · have ht : h.type ≠ [] := by simpa [isLabelled, hs] using hl
    rw [stem, parenthesized, hs, List.isEmpty_nil, if_pos rfl, List.append_nil,
      List.getLast?_append_of_ne_nil _ ht] at hc
    exact absurd (hf.type_word _ (List.mem_of_getLast? hc)) (by decide)
  · rw [stem, parenthesized, if_neg (by simpa using hs), ← List.append_assoc,
      List.getLast?_append_of_ne_nil _ (by simp), ← List.cons_append, List.getLast?_concat] at hc
    exact absurd hc (by decide)

/-- The mark that the rule sees is that of the first text with a colon in it. -/
theorem hasMark_line (hf : h.Framed) (hl : h.isLabelled = true) :
    Test.hasMark h.line = h.seenMark := by
  unfold seenMark
  split
  · rename_i hns
    rw [line_of_nameSpace_ne_nil (List.ne_nil_of_mem hns),
      Test.hasMark_append (by simp) (by simp) hns]
  rename_i hns
  split
  · rename_i hscope
    have hopening := colon_notMem_opening hf hns
    rw [line_of_scopes_ne_nil (scopes_ne_nil hscope),
      Test.hasMark_append (by simpa using hopening) (by simp) hscope]
  · rename_i hscope
    have hcolon := colon_notMem_stem hf hns hscope
    rw [line_of_isLabelled hl, ending, ← List.append_assoc]
    cases h.breaking with
    | true =>
      rw [if_pos rfl, Test.hasMark_append_colon (by simpa using hcolon)]
      simp
    | false =>
      rw [if_neg Bool.false_ne_true, List.append_nil, Test.hasMark_append_colon hcolon,
        beq_eq_false_iff_ne]
      exact getLast?_stem_ne hf hl

section Scopes

theorem insertScope_isPrefix (scopes : List Text) (s : Text) : scopes <+: insertScope scopes s := by
  unfold insertScope
  dsimp only
  split
  · exact List.prefix_rfl
  · exact List.prefix_append _ _

/-- Scopes that come later are put after those that are there. -/
theorem foldl_insertScope_isPrefix (scopes values : List Text) :
    scopes <+: values.foldl insertScope scopes := by
  induction values generalizing scopes with
  | nil => exact List.prefix_rfl
  | cons v values ih => exact (insertScope_isPrefix scopes v).trans (ih _)

/-- The scopes up to one that none of them is stay in their places. -/
theorem distinctScopes_append_cons {as bs : List Text} {s : Text}
    (ha : ∀ a ∈ as, a ≠ [] ∧ Text.strip a = a) (hd : as.Nodup) (hne : s ≠ [])
    (hs : Text.strip s = s) (hnew : s ∉ as) :
    as ++ [s] <+: distinctScopes (as ++ s :: bs) := by
  have hkept : distinctScopes (as ++ [s]) = as ++ [s] := by
    refine distinctScopes_eq_self (fun a h => ?_) (List.nodup_append.mpr ⟨hd, by simp, ?_⟩)
    · rcases List.mem_append.mp h with h | h
      · exact ha a h
      · rw [List.mem_singleton.mp h]
        exact ⟨hne, hs⟩
    · rintro a h b hb rfl
      exact hnew (List.mem_singleton.mp hb ▸ h)
  have hfold : distinctScopes (as ++ s :: bs) =
      bs.foldl insertScope (distinctScopes (as ++ [s])) := by
    rw [distinctScopes, distinctScopes, List.append_cons, List.foldl_append]
  rw [hfold, hkept]
  exact foldl_insertScope_isPrefix _ _

/-- The scopes around the first one with a colon in it, and what stands around it in the line. -/
theorem exists_scope_with_colon (hf : h.Framed) (hns : ':' ∉ h.nameSpace) (hc : ':' ∈ h.scope) :
    ∃ as s bs before after, h.scopes = as ++ s :: bs ∧ ':' ∈ s ∧ (∀ a ∈ as, ':' ∉ a) ∧
      Test.hasMark h.scope = Test.hasMark s ∧
      (∀ u, ({ h with scopes := as ++ u :: bs } : Header).line = before ++ (u ++ after)) ∧
      ':' ∉ before ∧ before ≠ [] ∧ before.getLast? ≠ some '!' := by
  have hfound : (h.scopes.find? fun s => decide (':' ∈ s)).isSome = true := by
    rw [List.find?_isSome]
    rcases Text.mem_join hc with hc | ⟨s, hs, hc⟩
    · rw [hf.delimiter] at hc
      exact absurd hc (by decide)
    · exact ⟨s, hs, decide_eq_true hc⟩
  obtain ⟨s, hs⟩ := Option.isSome_iff_exists.mp hfound
  obtain ⟨hcolon, as, bs, hscopes, hfirst⟩ := List.find?_eq_some_iff_append.mp hs
  have ha : ∀ a ∈ as, ':' ∉ a := fun a ha => by simpa using hfirst a ha
  obtain ⟨before, after, hjoin, hend, hbefore⟩ := Text.exists_join_middle [','] as bs
  have hin : ':' ∉ before := by
    intro hc
    rcases hbefore _ hc with hc | ⟨a, hmem, hc⟩
    · exact absurd hc (by decide)
    · exact ha a hmem hc
  have hlast : before.getLast? ≠ some '!' := by
    rcases hend with rfl | ⟨t, rfl⟩ <;> simp
  have hjoined : ∀ u,
      ({ h with scopes := as ++ u :: bs } : Header).scope = before ++ (u ++ after) := by
    intro u
    rw [scope, hf.delimiter]
    exact hjoin u
  refine ⟨as, s, bs, h.bracketed ++ h.type ++ ['('] ++ before, after ++ ')' :: h.ending, hscopes,
    of_decide_eq_true hcolon, ha, ?_, fun u => ?_, ?_, by simp, ?_⟩
  · have hscope : h.scope = before ++ (s ++ after) := by rw [← hjoined s, ← hscopes]
    rw [hscope, Test.hasMark_append hin hlast (of_decide_eq_true hcolon)]
  · rw [line_of_scopes_ne_nil (by simp), hjoined]
    simp only [List.append_assoc]
    rfl
  · have hopening := colon_notMem_opening hf hns
    simpa [hin] using hopening
  · rcases hend with rfl | hend
    · simp
    · rw [List.getLast?_append]
      obtain ⟨t, rfl⟩ := hend
      simp

/-- Another trimmed scope of the same characters, or with exclamation marks. -/
theorem Framed.replaceScope (hf : h.Framed) {as bs : List Text} {s u : Text}
    (hscopes : h.scopes = as ++ s :: bs) (hne : u ≠ []) (hstrip : Text.strip u = u)
    (hin : ∀ c ∈ u, c = '!' ∨ c ∈ s) : ({ h with scopes := as ++ u :: bs } : Header).Framed := by
  have hkept : ∀ a ∈ as ++ u :: bs, a = u ∨ a ∈ h.scopes := by
    intro a ha
    rw [hscopes]
    simp only [List.mem_append, List.mem_cons] at ha ⊢
    tauto
  have hclosed : ∀ a ∈ as ++ u :: bs, ∀ c ∈ a, c ≠ ',' ∧ c ≠ ')' := by
    intro a ha c hc
    rcases hkept a ha with rfl | ha
    · rcases hin c hc with rfl | hc
      · decide
      · exact hf.scopes_closed s (by simp [hscopes]) c hc
    · exact hf.scopes_closed a ha c hc
  refine { hf with
    scope_closed := closing_notMem_scope ?_ fun a ha hc => (hclosed a ha _ hc).2 rfl
    scopes_trimmed := fun a ha => ?_
    scopes_closed := hclosed }
  · rw [hf.delimiter]
    decide
  · rcases hkept a ha with rfl | ha
    · exact ⟨hne, hstrip⟩
    · exact hf.scopes_trimmed a ha

end Scopes

section Setting

variable {options : HeaderOptions} {wanted : Bool}

/-- Where the namespace has a colon, setting the mark changes the namespace. -/
theorem parse_setMark_of_nameSpace (hf : h.Framed) (hl : h.isLabelled = true)
    (hd : options.scopeDelimiter = [',']) (hns : ':' ∈ h.nameSpace)
    (hmark : Test.hasMark h.nameSpace ≠ wanted) :
    ∃ k, parse options (Test.setMark wanted h.line) = .ok k ∧ k.nameSpace ≠ h.nameSpace := by
  have hopen : ':' ∉ ['['] := by simp
  obtain ⟨ns, hset, hdiffers, hcolon, hstrip, hin⟩ := Test.exists_setMark_append hopen (by simp)
    (by simp) hns hf.nameSpace_trimmed hmark ([']', ' '] ++ h.labelledSubject)
  let g : Header := { h with nameSpace := ns }
  have hg : g.Framed := { hf with
    nameSpace_trimmed := hstrip
    nameSpace_closed := fun hc => (hin _ hc).elim (by decide) hf.nameSpace_closed }
  have hline : Test.setMark wanted h.line = g.line := by
    rw [line_of_nameSpace_ne_nil (List.ne_nil_of_mem hns), hset,
      line_of_nameSpace_ne_nil (h := g) (List.ne_nil_of_mem hcolon)]
    rfl
  exact ⟨_, by rw [hline, parse_line_of_isLabelled hg hl hd], hdiffers⟩

/-- Where a scope has the first colon, setting the mark changes that scope. -/
theorem parse_setMark_of_scope (hf : h.Framed) (hn : h.scopes.Nodup)
    (hd : options.scopeDelimiter = [',']) (hns : ':' ∉ h.nameSpace) (hscope : ':' ∈ h.scope)
    (hmark : Test.hasMark h.scope ≠ wanted) :
    ∃ k, parse options (Test.setMark wanted h.line) = .ok k ∧ k.scopes ≠ h.scopes := by
  obtain ⟨as, s, bs, before, after, hscopes, hs, ha, hscopeMark, hline, hb, hne, hlast⟩ :=
    exists_scope_with_colon hf hns hscope
  have hkept : ∀ a ∈ as, a ∈ h.scopes := fun a h => by simp [hscopes, h]
  obtain ⟨u, hset, hdiffers, hcolon, hstrip, hin⟩ := Test.exists_setMark_append hb hne hlast hs
    (hf.scopes_trimmed s (by simp [hscopes])).2 (hscopeMark ▸ hmark) after
  have hg := hf.replaceScope hscopes (List.ne_nil_of_mem hcolon) hstrip hin
  have hread : Test.setMark wanted h.line = ({ h with scopes := as ++ u :: bs } : Header).line := by
    rw [hline u, ← hset, ← hline s, ← hscopes]
  refine ⟨_, by rw [hread, parse_line_of_isLabelled hg (by simp [isLabelled]) hd], ?_⟩
  -- The scopes before it are those that were there, and it is another one.
  have hbegin : as ++ [u] <+: distinctScopes (as ++ u :: bs) := by
    refine distinctScopes_append_cons (fun a h => hf.scopes_trimmed a (hkept a h)) ?_
      (List.ne_nil_of_mem hcolon) hstrip fun h => ha u h hcolon
    rw [hscopes] at hn
    exact (List.nodup_append.mp hn).1
  intro hsame
  replace hsame : distinctScopes (as ++ u :: bs) = as ++ s :: bs := hsame.trans hscopes
  rw [hsame, List.prefix_append_right_inj, List.cons_prefix_cons] at hbegin
  exact hdiffers hbegin.1

/-- Where neither has a colon, setting the mark changes the mark. -/
theorem setMark_line (hf : h.Framed) (hl : h.isLabelled = true) (hns : ':' ∉ h.nameSpace)
    (hscope : ':' ∉ h.scope) (hmark : h.breaking ≠ wanted) :
    Test.setMark wanted h.line = ({ h with breaking := wanted } : Header).line := by
  have hcolon := colon_notMem_stem hf hns hscope
  have hline : h.line = h.stem ++ (if h.breaking then ['!'] else []) ++ ':' :: ' ' :: h.subject :=
    line_withBreaking hl h.breaking
  rw [hline, Test.setMark_append_colon (by split <;> simp [hcolon]) (by simp [stem_ne_nil hl]),
    Test.withMark_append (getLast?_stem_ne hf hl), line_withBreaking hl]
  cases wanted with
  | true =>
    have hunmarked : h.breaking = false := by simpa using hmark
    simp [Test.withMark, hunmarked]
  | false =>
    have hmarked : h.breaking = true := by simpa using hmark
    simp [Test.withMark, hmarked]

/-- What is read after the mark that the rule sees is set: the same header with the mark as it is
wanted, unless the rule sees a mark in the namespace or the scopes. -/
theorem exists_parse_marked (hf : h.Framed) (hl : h.isLabelled = true) (hn : h.scopes.Nodup)
    (hstyles : h.styles = fun _ => .plain) (wanted : Bool) :
    ∃ k, parse h.options (if h.seenMark = wanted then h.line else Test.setMark wanted h.line) =
        .ok k ∧
      (k = { h with breaking := wanted } ↔
        (':' ∉ h.nameSpace ∧ ':' ∉ h.scope) ∨ (h.seenMark = wanted ∧ h.breaking = wanted)) := by
  have hread : ∀ g : Header, g.Framed → g.isLabelled = true → g.scopes.Nodup →
      g.styles = (fun _ => .plain) → parse g.options g.line = .ok g := by
    intro g hg hgl hgn hgs
    rw [parse_line_of_isLabelled hg hgl hg.delimiter,
      distinctScopes_eq_self hg.scopes_trimmed hgn, ← hgs]
  by_cases hmark : h.seenMark = wanted
  · rw [if_pos hmark]
    refine ⟨h, hread h hf hl hn hstyles, ?_⟩
    have hsame : h = { h with breaking := wanted } ↔ h.breaking = wanted := by
      constructor
      · exact fun he => congrArg Header.breaking he
      · rintro rfl
        rfl
    rw [hsame]
    constructor
    · exact fun hb => Or.inr ⟨hmark, hb⟩
    · rintro (⟨hns, hscope⟩ | ⟨-, hb⟩)
      · rwa [seenMark, if_neg hns, if_neg hscope] at hmark
      · exact hb
  rw [if_neg hmark]
  by_cases hns : ':' ∈ h.nameSpace
  · rw [seenMark, if_pos hns] at hmark
    obtain ⟨k, hk, hdiffers⟩ := parse_setMark_of_nameSpace hf hl hf.delimiter hns hmark
    refine ⟨k, hk, iff_of_false (fun he => hdiffers (by rw [he])) ?_⟩
    rintro (⟨hno, -⟩ | ⟨hseen, -⟩)
    · exact hno hns
    · rw [seenMark, if_pos hns] at hseen
      exact hmark hseen
  by_cases hscope : ':' ∈ h.scope
  · rw [seenMark, if_neg hns, if_pos hscope] at hmark
    obtain ⟨k, hk, hdiffers⟩ := parse_setMark_of_scope hf hn hf.delimiter hns hscope hmark
    refine ⟨k, hk, iff_of_false (fun he => hdiffers (by rw [he])) ?_⟩
    rintro (⟨-, hno⟩ | ⟨hseen, -⟩)
    · exact hno hscope
    · rw [seenMark, if_neg hns, if_pos hscope] at hseen
      exact hmark hseen
  · rw [seenMark, if_neg hns, if_neg hscope] at hmark
    rw [setMark_line hf hl hns hscope hmark]
    exact ⟨{ h with breaking := wanted },
      hread { h with breaking := wanted } { hf with } hl hn hstyles,
      iff_of_true rfl (Or.inl ⟨hns, hscope⟩)⟩

end Setting

end Header

/-- A rule on exclamation marks repairs a value whose mark is not as it is wanted. -/
theorem Rule.mend_exclamationMark {r : Rule} (hc : r.constraint = .each .exclamationMark)
    (s : Text) :
    r.mend s = if Test.hasMark s = (r.applicability == .always) then s
      else Test.setMark (r.applicability == .always) s := by
  have hcomplies : r.complies .exclamationMark s =
      (Test.hasMark s == (r.applicability == .always)) := rfl
  rw [mend, hc]
  simp only [hcomplies, beq_iff_eq]
  rfl

/-- The rule on exclamation marks sees the mark of a header with a type or scopes, unless there is
a colon in the namespace or the scopes before it. Repairing the line then sets the mark and
changes nothing else; otherwise the header that is read differs, unless the rule sees what is
wanted and the header is so. -/
theorem Header.hasMark_render_of_parse {options : HeaderOptions} {line : Text} {h : Header}
    (hd : options.scopeDelimiter = [',']) (hp : Header.parse options line = .ok h)
    (hl : h.type ≠ [] ∨ h.scopes ≠ []) :
    Test.hasMark h.render = h.seenMark ∧
      ∀ (r : Rule) (files : Option ChangedFiles), r.constraint = .each .exclamationMark →
        ∃ found fixed k, r.fix [h.render] files = .ok (found, [fixed]) ∧
          Header.parse options fixed = .ok k ∧
          (k = { h with breaking := r.applicability == .always } ↔
            (':' ∉ h.nameSpace ∧ ':' ∉ h.scope) ∨
              (h.seenMark = (r.applicability == .always) ∧
                h.breaking = (r.applicability == .always))) := by
  have hlabelled : h.isLabelled = true := by
    rw [isLabelled, Bool.not_eq_true', Bool.and_eq_false_iff]
    exact hl.imp List.isEmpty_eq_false_iff.mpr List.isEmpty_eq_false_iff.mpr
  obtain ⟨hf, hn, hoptions, hstyles⟩ := framed_of_parse hd hp hlabelled
  have hrender : h.render = h.line := render_eq_line fun field t => by rw [hstyles]; rfl
  have hmark := hasMark_line hf hlabelled
  rw [hrender]
  refine ⟨hmark, fun r files hc => ?_⟩
  obtain ⟨k, hk, hiff⟩ := exists_parse_marked hf hlabelled hn hstyles (r.applicability == .always)
  have hworded : r.IsWorded := (Rule.isWorded_each hc).mpr (by decide)
  obtain ⟨left, -, hfix⟩ := hworded.exists_fix_each hc [h.line] files
  refine ⟨left, _, k, hfix, ?_, hiff⟩
  rw [Rule.mend_exclamationMark hc, hmark, ← hoptions]
  exact hk

/-- A rule that demands or forbids the mark of a header. -/
def Rule.headerMark (a : Applicability) : Rule :=
  ⟨Part.header.name, .error, a, .each .exclamationMark⟩

/-- The mark before the colon is seen, and taken away where it is forbidden. -/
theorem Header.hasMark_render_of_parse_addX :
    ∃ h found fixed k, Header.parse .standard "feat!: Add x".toList = .ok h ∧
      Test.hasMark h.render = true ∧
      (Rule.headerMark .never).fix [h.render] none = .ok (found, [fixed]) ∧
      Header.parse .standard fixed = .ok k ∧ k = { h with breaking := false } := by
  have hp : Header.parse .standard "feat!: Add x".toList =
      .ok (Header.make .standard [] "feat".toList [] "Add x".toList true) := rfl
  obtain ⟨hmark, hfix⟩ := Header.hasMark_render_of_parse rfl hp (Or.inl (by simp [Header.make]))
  obtain ⟨found, fixed, k, hfixed, hk, hiff⟩ := hfix (Rule.headerMark .never) none rfl
  exact ⟨_, found, fixed, k, hp, hmark, hfixed, hk,
    hiff.mpr (Or.inl ⟨by simp [Header.make], by decide⟩)⟩

/-- The colon of a scope hides the mark of a breaking header, and the repair marks the scope. -/
theorem Header.hasMark_render_of_parse_colonScope :
    ∃ h found k, Header.parse .standard "feat(a:b)!: Add x".toList = .ok h ∧
      h.breaking = true ∧ Test.hasMark h.render = false ∧
      (Rule.headerMark .always).fix [h.render] none =
        .ok (found, ["feat(a!:b)!: Add x".toList]) ∧
      Header.parse .standard "feat(a!:b)!: Add x".toList = .ok k ∧
      h.scopes = ["a:b".toList] ∧ k.scopes = ["a!:b".toList] :=
  ⟨Header.make .standard [] "feat".toList ["a:b".toList] "Add x".toList true, [],
    Header.make .standard [] "feat".toList ["a!:b".toList] "Add x".toList true,
    rfl, rfl, by decide, rfl, rfl, by decide, by decide⟩

end CommitStandard
