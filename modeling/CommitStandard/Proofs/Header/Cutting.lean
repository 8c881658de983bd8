import Mathlib.Tactic
import CommitStandard.Proofs.Header.RoundTrip
import CommitStandard.Text.Cut

/-!
# The length of a header that is read

A header is written with a space after the namespace and after the label, also if it
was read from a text without one. Apart from these spaces nothing becomes longer
(`length_line_of_parse_le`). Of the texts that a legible line begins with only those
that end with the bracket of the namespace or the colon of the label lack a space
(`addedSpaces_of_isPrefix`). A line that is cut there and read again is one character too
long, and at all other widths it fits (`length_line_of_parse_cutTo`).
-/
namespace CommitStandard.Header

variable {options : HeaderOptions} {line : Text} {k h : Header}

section Scopes

theorem length_join_concat (delimiter : Text) (ss : List Text) (s : Text) :
    (Text.join delimiter (ss ++ [s])).length =
      (Text.join delimiter ss).length + (if ss = [] then 0 else delimiter.length) + s.length := by
  by_cases hss : ss = []
  · simp [hss]
  · rw [Text.join_append _ hss (by simp), if_neg hss]
    simp [Nat.add_assoc]

/-- Tidying scopes makes them no longer. -/
theorem length_join_distinctScopes_le (delimiter : Text) (values : List Text) :
    (Text.join delimiter (distinctScopes values)).length ≤
      (Text.join delimiter values).length := by
  induction values using List.reverseRecOn with
  | nil => exact le_rfl
  | append_singleton values v ih =>
    have hstrip := Text.length_strip_le v
    rw [distinctScopes_concat, length_join_concat]
    rcases insertScope_cases (distinctScopes values) v with hadded | hadded
    · rw [hadded]
      omega
    · rw [hadded, length_join_concat]
      have hempty : values = [] → distinctScopes values = [] := by
        rintro rfl
        rfl
      split <;> split <;> first
        | omega
        | exact absurd (hempty ‹_›) ‹_›

end Scopes

section Spaces

/-- The number of spaces that have to be put before a text so that one stands there. -/
def spacesMissing : Text → Nat
  | ' ' :: _ => 0
  | _ => 1

theorem spacesMissing_le (s : Text) : spacesMissing s ≤ 1 := by
  unfold spacesMissing
  split <;> omega

theorem length_dropSpace (s : Text) : (dropSpace s).length + 1 = s.length + spacesMissing s := by
  unfold dropSpace spacesMissing
  split <;> simp [*]

/-- The spaces that are missing after the label of a text. -/
def labelSpaces (s : Text) : Nat :=
  (takeToColon? s).elim 0 fun found => spacesMissing found.2

/-- The spaces that are missing after the namespace and after the label. -/
def addedSpaces (s : Text) : Nat :=
  ((takeBracketed? s).elim 0 fun found => spacesMissing found.2) +
    labelSpaces (takeNameSpace s).2

theorem labelSpaces_le (s : Text) : labelSpaces s ≤ 1 := by
  unfold labelSpaces
  cases takeToColon? s with
  | none => exact Nat.zero_le 1
  | some found => exact spacesMissing_le found.2

theorem addedSpaces_le (s : Text) : addedSpaces s ≤ 2 := by
  have hlabel := labelSpaces_le (takeNameSpace s).2
  unfold addedSpaces
  cases takeBracketed? s with
  | none =>
    simp only [Option.elim_none]
    omega
  | some found =>
    have hbracket := spacesMissing_le found.2
    simp only [Option.elim_some]
    omega

end Spaces

section Lengths

/-- Only scopes that are not empty are kept. -/
theorem distinctScopes_eq_nil {delimiter : Text} {scopes : List Text}
    (h : Text.join delimiter scopes = []) : distinctScopes scopes = [] := by
  rw [List.eq_nil_iff_forall_not_mem]
  intro s hs
  obtain ⟨hne, v, hv, rfl⟩ := (distinctScopes_spec scopes).2 s hs
  obtain ⟨c, hc⟩ := List.exists_mem_of_ne_nil _ hne
  have hmem : c ∈ Text.join delimiter scopes :=
    Text.mem_join_of_mem hv (Text.mem_of_mem_strip hc)
  rw [h] at hmem
  exact absurd hmem (by simp)

/-- A label is written no longer than the text it was read from. -/
theorem length_label_make_le {options : HeaderOptions} {l : Label} {t : Text} (ht : l.IsText t)
    (ns subject : Text) {scopes : List Text}
    (hscopes : Text.join options.scopeDelimiter scopes = l.scope) :
    (make options ns l.type scopes subject l.breaking).label.length ≤ t.length := by
  obtain ⟨parenthesized, hparenthesized, rfl⟩ := ht.eq_append
  have hlength : (make options ns l.type scopes subject l.breaking).parenthesized.length ≤
      parenthesized.length := by
    rw [Header.parenthesized]
    split
    · exact Nat.zero_le _
    · rename_i hne
      rcases hparenthesized with ⟨-, hempty⟩ | rfl
      · exact absurd (List.isEmpty_iff.mpr (distinctScopes_eq_nil (hscopes.trans hempty))) hne
      · have hjoin := length_join_distinctScopes_le options.scopeDelimiter scopes
        rw [hscopes] at hjoin
        simpa [scope, make] using hjoin
  rw [label]
  simp only [List.length_append]
  have htype : (make options ns l.type scopes subject l.breaking).type = l.type := rfl
  have hbreaking : (make options ns l.type scopes subject l.breaking).breaking = l.breaking := rfl
  rw [htype, hbreaking]
  omega

theorem length_labelledSubject_le (h : Header) :
    h.labelledSubject.length ≤ h.label.length + (h.subject.length + 1) := by
  unfold labelledSubject
  split
  · rw [List.length_append, List.length_cons]
  · omega

theorem length_bracketed_le (h : Header) :
    h.bracketed.length ≤ h.nameSpace.length + 3 ∧ (h.nameSpace = [] → h.bracketed.length = 0) := by
  unfold bracketed
  split
  · simp
  · rename_i hne
    exact ⟨by simp, fun h0 => absurd (List.isEmpty_iff.mpr h0) hne⟩

/-- The label and the subject are no longer than the text they were read from, apart from the
space between them. -/
theorem length_labelledSubject_make_le (options : HeaderOptions) (ns : Text) {rest : Text}
    {label : Label} {subject : Text}
    (hfound : (takeLabel? rest).getD (⟨[], [], false⟩, rest) = (label, subject))
    {scopes : List Text} (hscopes : Text.join options.scopeDelimiter scopes = label.scope) :
    (make options ns label.type scopes (Text.strip subject) label.breaking).labelledSubject.length ≤
      rest.length + labelSpaces rest := by
  have hsubject := Text.length_strip_le subject
  rw [takeLabel?_eq_map] at hfound
  unfold labelSpaces
  cases hrest : takeToColon? rest with
  | none =>
    rw [hrest, Option.map_none, Option.getD_none, Prod.mk.injEq] at hfound
    obtain ⟨rfl, rfl⟩ := hfound
    have hunlabelled : (make options ns [] scopes (Text.strip rest) false).isLabelled = false := by
      simp [isLabelled, make, distinctScopes_eq_nil hscopes]
    rw [labelledSubject, if_neg (by simp [hunlabelled])]
    exact hsubject
  | some found =>
    obtain ⟨l, r⟩ := found
    obtain ⟨t, ht, rfl⟩ := takeToColon?_eq_some_iff.mp hrest
    rw [hrest, Option.map_some, Option.getD_some, Prod.mk.injEq] at hfound
    obtain ⟨rfl, hr⟩ := hfound
    have hlabel := length_label_make_le ht ns (Text.strip subject) hscopes
    have hspace : subject.length + 1 = r.length + spacesMissing r := hr ▸ length_dropSpace r
    calc (make options ns l.type scopes (Text.strip subject) l.breaking).labelledSubject.length
        ≤ (make options ns l.type scopes (Text.strip subject) l.breaking).label.length +
            ((Text.strip subject).length + 1) := length_labelledSubject_le _
      _ ≤ t.length + (subject.length + 1) := by omega
      _ = (t ++ r).length + spacesMissing r := by
        rw [hspace, List.length_append, Nat.add_assoc]

/-- Reading makes a line no longer but for the spaces that are missing in it. -/
theorem length_line_of_parse_le (hp : parse options line = .ok k) :
    k.line.length ≤ (Text.strip line).length + addedSpaces (Text.strip line) := by
  obtain ⟨ns, rest, label, subject, hns, hfound, hk⟩ := parse_spec hp
  rcases hk with rfl | ⟨scopes, hscopes, rfl⟩
  · exact Nat.le_add_right _ _
  have hrest := length_labelledSubject_make_le options (Text.strip ns) hfound hscopes
  obtain ⟨hbracketed, hempty⟩ := length_bracketed_le
    (make options (Text.strip ns) label.type scopes (Text.strip subject) label.breaking)
  replace hbracketed := hbracketed.trans (Nat.add_le_add_right (Text.length_strip_le ns) 3)
  rw [line_eq_append, List.length_append, addedSpaces, hns]
  rw [takeNameSpace_eq] at hns
  cases hs : takeBracketed? (Text.strip line) with
  | none =>
    rw [hs, Option.map_none, Option.getD_none, Prod.mk.injEq] at hns
    rw [hempty (by rw [← hns.1]; rfl), Option.elim_none, hns.2]
    dsimp only
    omega
  | some found =>
    obtain ⟨a, b⟩ := found
    rw [hs, Option.map_some, Option.getD_some, Prod.mk.injEq] at hns
    obtain ⟨-, hline⟩ := takeBracketed?_eq_some_iff.mp hs
    have htotal := congrArg List.length hline
    have hspace : rest.length + 1 = b.length + spacesMissing b := hns.2 ▸ length_dropSpace b
    have hname : ns.length = a.length := congrArg List.length hns.1.symm
    simp only [List.length_cons, List.length_append] at htotal
    rw [Option.elim_some]
    dsimp only
    omega

end Lengths

/-- The beginnings of the line that a space follows whatever the rest is. -/
def heads (h : Header) : List Text :=
  (if h.nameSpace.isEmpty then [] else ['[' :: (h.nameSpace ++ [']'])]) ++
    if h.isLabelled then [h.bracketed ++ h.label] else []

section Beginnings

variable {s t b rest : Text} {l : Label}

theorem mem_heads_iff :
    t ∈ h.heads ↔ (h.nameSpace ≠ [] ∧ t = '[' :: (h.nameSpace ++ [']'])) ∨
      (h.isLabelled = true ∧ t = h.bracketed ++ h.label) := by
  unfold heads
  by_cases hns : h.nameSpace = [] <;> cases hl : h.isLabelled <;> simp [hns]

theorem prefix_of_mem_heads (ht : t ∈ h.heads) : ∃ rest, h.line = t ++ ' ' :: rest := by
  rcases mem_heads_iff.mp ht with ⟨hns, rfl⟩ | ⟨hl, rfl⟩
  · exact ⟨h.labelledSubject, by rw [line, if_neg (by simpa using hns)]⟩
  · exact ⟨h.subject, by rw [line_eq_append, labelledSubject, if_pos hl, List.append_assoc]⟩

theorem takeToColon?_of_head (hs : s = [] ∨ s.head? = some '[') : takeToColon? s = none := by
  rcases hs with rfl | hs
  · rfl
  · obtain ⟨t, rfl⟩ := List.head?_eq_some_iff.mp hs
    have hword : Text.isWord '[' = false := by decide
    simp [takeToColon?, takeParenthesized, hword]

/-- Nothing is in brackets at the start of a legible line without a namespace. -/
theorem takeBracketed?_of_legible (hl : h.Legible) (hns : h.nameSpace = []) :
    takeBracketed? h.labelledSubject = none := by
  rw [Option.eq_none_iff_forall_ne_some]
  rintro ⟨a, b⟩ hfound
  obtain ⟨-, hs⟩ := takeBracketed?_eq_some_iff.mp hfound
  cases hlab : h.isLabelled with
  | true =>
    have hhead : h.label.head? = some '[' := by
      rw [labelledSubject, if_pos hlab] at hs
      rw [← List.head?_append_of_ne_nil _ (label_ne_nil h), hs]
      rfl
    exact (head?_label hl.framed.toEnclosed hhead).2.1 rfl
  | false =>
    rw [labelledSubject, hlab, if_neg Bool.false_ne_true] at hs hfound
    have hrest := (hl.unlabelled hlab).2.2 hns
    rw [takeNameSpace_eq, hfound, Option.map_some, Option.getD_some, Prod.mk.injEq] at hrest
    have hdropped := (dropSpace_suffix b).length_le
    have hsame := congrArg List.length (hrest.2.trans hs)
    simp only [List.length_cons, List.length_append] at hsame
    omega

/-- A label that a beginning of the label and the subject has is the whole label. -/
theorem takeToColon?_of_isPrefix (hl : h.Legible) (hb : b ++ rest = h.labelledSubject)
    {tail : Text} (hfound : takeToColon? b = some (l, tail)) :
    h.isLabelled = true ∧ tail ++ rest = ' ' :: h.subject := by
  have hwhole := takeToColon?_append hfound rest
  rw [hb, labelledSubject] at hwhole
  cases hlab : h.isLabelled with
  | true =>
    rw [if_pos hlab, takeToColon?_label hl.framed.toEnclosed, Option.some.injEq,
      Prod.mk.injEq] at hwhole
    exact ⟨rfl, hwhole.2.symm⟩
  | false =>
    have hnone := (hl.unlabelled hlab).2.1
    rw [hlab, if_neg Bool.false_ne_true] at hwhole
    rw [takeLabel?_eq_map, hwhole] at hnone
    exact absurd hnone (by simp)

/-- Only the label itself lacks a space after the label. -/
theorem labelSpaces_of_isPrefix (hl : h.Legible) (hb : b ++ rest = h.labelledSubject) :
    labelSpaces b = 0 ∨ (h.isLabelled = true ∧ b = h.label) := by
  unfold labelSpaces
  cases hfound : takeToColon? b with
  | none => exact Or.inl rfl
  | some found =>
    obtain ⟨l, tail⟩ := found
    obtain ⟨hlab, htail⟩ := takeToColon?_of_isPrefix hl hb hfound
    cases tail with
    | nil =>
      refine Or.inr ⟨hlab, ?_⟩
      rw [List.nil_append] at htail
      rw [labelledSubject, if_pos hlab, htail] at hb
      exact List.append_cancel_right hb
    | cons c tail =>
      left
      rw [List.cons_append, List.cons.injEq] at htail
      rw [htail.1]
      rfl

/-- Without a namespace only the label lacks a space. -/
theorem addedSpaces_of_nameSpace_eq_nil (hl : h.Legible) (hns : h.nameSpace = [])
    (ht : t ++ rest = h.labelledSubject) :
    addedSpaces t = 0 ∨ addedSpaces t ≤ 1 ∧ h.isLabelled = true ∧ t = h.label := by
  have hnone : takeBracketed? t = none := by
    rw [Option.eq_none_iff_forall_ne_some]
    intro found hfound
    have hwhole := takeBracketed?_append hfound rest
    rw [ht, takeBracketed?_of_legible hl hns] at hwhole
    exact absurd hwhole (by simp)
  have hspaces : addedSpaces t = labelSpaces t := by
    rw [addedSpaces, takeNameSpace_eq, hnone]
    simp
  rw [hspaces]
  exact (labelSpaces_of_isPrefix hl ht).imp_right fun hlabel => ⟨labelSpaces_le t, hlabel⟩

/-- After a namespace a space is lacking where the text ends with its bracket or with the label. -/
theorem addedSpaces_of_bracketed (hl : h.Legible)
    (ht : t ++ rest = '[' :: (h.nameSpace ++ ']' :: ' ' :: h.labelledSubject)) :
    addedSpaces t = 0 ∨ addedSpaces t ≤ 1 ∧ (t = '[' :: (h.nameSpace ++ [']']) ∨
      h.isLabelled = true ∧ t = '[' :: (h.nameSpace ++ ']' :: ' ' :: h.label)) := by
  cases hfound : takeBracketed? t with
  | none =>
    have hhead : t = [] ∨ t.head? = some '[' := by
      by_cases h0 : t = []
      · exact Or.inl h0
      · refine Or.inr ?_
        rw [← List.head?_append_of_ne_nil t h0, ht]
        rfl
    left
    rw [addedSpaces, takeNameSpace_eq, hfound, labelSpaces]
    simp [takeToColon?_of_head hhead]
  | some found =>
    obtain ⟨a, b⟩ := found
    have hwhole := takeBracketed?_append hfound rest
    rw [ht, takeBracketed?_eq_some_iff.mpr ⟨hl.framed.nameSpace_closed, rfl⟩,
      Option.some.injEq, Prod.mk.injEq] at hwhole
    obtain ⟨rfl, hb⟩ := hwhole
    have hspaces : addedSpaces t = spacesMissing b + labelSpaces (dropSpace b) := by
      rw [addedSpaces, takeNameSpace_eq, hfound]
      rfl
    obtain ⟨-, rfl⟩ := takeBracketed?_eq_some_iff.mp hfound
    rw [hspaces]
    cases b with
    | nil => exact Or.inr ⟨by decide, Or.inl rfl⟩
    | cons c b =>
      rw [List.cons_append, List.cons.injEq] at hb
      obtain ⟨rfl, hb⟩ := hb
      have hkept : spacesMissing (' ' :: b) + labelSpaces (dropSpace (' ' :: b)) = labelSpaces b :=
        Nat.zero_add _
      rw [hkept]
      rcases labelSpaces_of_isPrefix hl hb.symm with h0 | ⟨hlab, rfl⟩
      · exact Or.inl h0
      · exact Or.inr ⟨labelSpaces_le _, Or.inr ⟨hlab, rfl⟩⟩

/-- The beginnings of a legible line that lack a space are its heads, and they lack one. -/
theorem addedSpaces_of_isPrefix (hl : h.Legible) (ht : t <+: h.line) :
    addedSpaces t = 0 ∨ addedSpaces t ≤ 1 ∧ t ∈ h.heads := by
  obtain ⟨rest, hrest⟩ := ht
  rw [line_eq_append] at hrest
  rw [mem_heads_iff]
  by_cases hns : h.nameSpace = []
  · have hopen : h.bracketed = [] := by simp [bracketed, hns]
    rw [hopen, List.nil_append] at hrest ⊢
    exact (addedSpaces_of_nameSpace_eq_nil hl hns hrest).imp_right fun hlabel =>
      ⟨hlabel.1, Or.inr hlabel.2⟩
  · have hopen : h.bracketed = '[' :: (h.nameSpace ++ [']', ' ']) := by simp [bracketed, hns]
    have hline : t ++ rest = '[' :: (h.nameSpace ++ ']' :: ' ' :: h.labelledSubject) := by
      simp [hrest, hopen]
    rcases addedSpaces_of_bracketed hl hline with h0 | ⟨hone, rfl | ⟨hlab, rfl⟩⟩
    · exact Or.inl h0
    · exact Or.inr ⟨hone, Or.inl ⟨hns, rfl⟩⟩
    · exact Or.inr ⟨hone, Or.inr ⟨hlab, by simp [hopen]⟩⟩

end Beginnings

section Cutting

variable {t : Text} {n : Nat}

theorem head?_line (hf : h.Framed) {c : Char} (hc : h.line.head? = some c) :
    Text.isBlank c = false := by
  unfold line at hc
  split at hc
  · exact head?_labelledSubject hf.toEnclosed hc
  · rw [← Option.some.inj hc]
    decide

/-- A beginning of a line is trimmed at its end only. -/
theorem strip_isPrefix (hf : h.Framed) (ht : t <+: h.line) : Text.strip t <+: t := by
  obtain ⟨rest, hrest⟩ := ht
  have hhead : ∀ c, t.head? = some c → Text.isBlank c = false := by
    intro c hc
    refine head?_line hf ?_
    rw [← hrest, List.head?_append, hc]
    rfl
  rw [Text.strip_eq_trimEnds, Text.trimEnds, Text.dropWhile_eq_self hhead]
  exact List.rdropWhile_prefix _ _

/-- What is read of a beginning of a legible line is at most one character longer, and no longer
if the beginning is none of the heads. -/
theorem length_line_of_parse_isPrefix (hl : h.Legible) (ht : t <+: h.line)
    (hp : parse options t = .ok k) :
    k.line.length ≤ t.length + 1 ∧ (t ∉ h.heads → k.line.length ≤ t.length) := by
  have hlength := length_line_of_parse_le hp
  have hstrip := strip_isPrefix hl.framed ht
  have hspaces := addedSpaces_of_isPrefix hl (hstrip.trans ht)
  by_cases hsame : Text.strip t = t
  · rw [hsame] at hlength hspaces
    rcases hspaces with h0 | ⟨h1, hmem⟩
    · exact ⟨by omega, fun _ => by omega⟩
    · exact ⟨by omega, fun hno => absurd hmem hno⟩
  · have hshorter : (Text.strip t).length < t.length := by
      refine lt_of_le_of_ne hstrip.length_le fun he => hsame ?_
      exact hstrip.eq_of_length he
    have hone : addedSpaces (Text.strip t) ≤ 1 := by
      rcases hspaces with h0 | ⟨h1, -⟩ <;> omega
    exact ⟨by omega, fun _ => by omega⟩

theorem parse_congr {a b : Text} (hs : Text.strip a = Text.strip b) :
    parse options a = parse options b := by
  unfold parse
  rw [hs]

/-- A head is read as the header without what follows it, and written with the space after it. -/
theorem exists_parse_head (hl : h.Legible) (hd : options.scopeDelimiter = [','])
    (ht : t ∈ h.heads) :
    ∃ k, parse options t = .ok k ∧ k.line.length = t.length + 1 := by
  obtain ⟨g, hg, hline⟩ : ∃ g : Header, g.Legible ∧ g.line = t ++ [' '] := by
    rcases mem_heads_iff.mp ht with ⟨hns, rfl⟩ | ⟨hlab, rfl⟩
    · let g : Header := { h with type := [], scopes := [], subject := [], breaking := false }
      have hg : g.Tidy := { hl.toTidy with
        type_word := by simp [g]
        scopes_nodup := List.nodup_nil
        scopes_trimmed := by simp [g]
        scopes_plain := by simp [g]
        subject_trimmed := rfl
        subject_line := by simp [g] }
      refine ⟨g, ⟨hg, fun _ => ⟨rfl, rfl, fun h0 => absurd h0 hns⟩⟩, ?_⟩
      rw [line, if_neg (by simpa [g] using hns)]
      simp [g, labelledSubject, isLabelled]
    · let g : Header := { h with subject := [] }
      have hg : g.Tidy := { hl.toTidy with
        subject_trimmed := rfl
        subject_line := by simp [g] }
      have hglab : g.isLabelled = true := hlab
      refine ⟨g, legible_of_isLabelled hg hglab, ?_⟩
      rw [line_eq_append, labelledSubject, if_pos hglab, List.append_assoc]
      rfl
  refine ⟨_, (parse_congr ?_).trans (parse_line hg hd), ?_⟩
  · rw [hline, Text.strip_concat (by decide)]
  · rw [line_withOptions (hd.trans hg.delimiter.symm), hline, List.length_append,
      List.length_singleton]

/-- A line can be cut after a head: no mark belongs to the bracket or the colon at its end. -/
theorem cutTo_of_mem_heads (ht : t ∈ h.heads) : Text.cutTo t.length h.line = t := by
  obtain ⟨rest, hline⟩ := prefix_of_mem_heads ht
  obtain ⟨c, hlast, hc⟩ : ∃ c, t.getLast? = some c ∧ c ≠ Text.zeroWidthJoiner := by
    rcases mem_heads_iff.mp ht with ⟨-, rfl⟩ | ⟨-, rfl⟩
    · exact ⟨']', by simp [List.getLast?_cons], by decide⟩
    · refine ⟨':', ?_, by decide⟩
      rw [List.getLast?_append_of_ne_nil _ (label_ne_nil h), getLast?_label]
  have hsafe : Text.isSafeCut h.line t.length = true := by
    have hne : t ≠ [] := by
      rintro rfl
      exact absurd hlast (by simp)
    have hpos := List.length_pos_iff.mpr hne
    have hspace : h.line[t.length]? = some ' ' := by simp [hline]
    have hbefore : h.line[t.length - 1]? = some c := by
      rw [hline, List.getElem?_append_left (by omega), ← List.getLast?_eq_getElem?, hlast]
    have hcontinues : Text.continuesCluster ' ' = false := by decide
    simp [Text.isSafeCut, hspace, hbefore, hcontinues, hc]
  have hcut : Text.safeCut h.line t.length = t.length := by
    cases hn : t.length with
    | zero => rfl
    | succ n =>
      rw [hn] at hsafe
      rw [Text.safeCut, if_pos hsafe]
  rw [Text.cutTo, hcut, hline, if_neg (by simp), List.take_left]

/-- A legible line that is cut to a width and read again fits, unless a head is as long as the
width; then it is one character too long. -/
theorem length_line_of_parse_cutTo (hl : h.Legible) (hd : options.scopeDelimiter = [','])
    (hp : parse options (Text.cutTo n h.line) = .ok k) :
    k.line.length ≤ n ↔ ∀ t ∈ h.heads, t.length ≠ n := by
  constructor
  · rintro hfits t ht rfl
    obtain ⟨g, hg, hlength⟩ := exists_parse_head hl hd ht
    rw [cutTo_of_mem_heads ht, hg, Except.ok.injEq] at hp
    rw [← hp] at hfits
    omega
  · intro hno
    have hbegin : Text.cutTo n h.line <+: h.line := by
      unfold Text.cutTo
      split
      · exact List.prefix_rfl
      · exact List.take_prefix _ _
    have hwidth := Text.length_cutTo_le n h.line
    obtain ⟨hone, hnone⟩ := length_line_of_parse_isPrefix hl hbegin hp
    by_cases hmem : Text.cutTo n h.line ∈ h.heads
    · have hne := hno _ hmem
      omega
    · exact (hnone hmem).trans hwidth

end Cutting

end CommitStandard.Header
