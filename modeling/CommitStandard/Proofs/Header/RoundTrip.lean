import Mathlib.Tactic
import CommitStandard.Proofs.Header.Scanning
import CommitStandard.Proofs.Text.Separators

/-!
# Reading written headers

`Header.Tidy` collects what reading a line makes of the fields: trimmed texts
without the characters that end them. `Header.Legible` adds that a header
without a label has a subject that does not read as more than a subject. A
legible header is read back from its line (`parse_line`), every header that was
read is tidy (`tidy_of_parse`), and the lines that reading and writing leave
alone are exactly those of legible headers (`render_parse_iff`).
-/
namespace CommitStandard.Header

/-- Whether anything stands before the colon. -/
def isLabelled (h : Header) : Bool := !(h.type.isEmpty && h.scopes.isEmpty)

def parenthesized (h : Header) : Text :=
  if h.scopes.isEmpty then [] else '(' :: (h.scope ++ [')'])

/-- What stands before the subject, up to the colon. -/
def label (h : Header) : Text :=
  h.type ++ (h.parenthesized ++ if h.breaking then ['!', ':'] else [':'])

def labelledSubject (h : Header) : Text :=
  if h.isLabelled then h.label ++ ' ' :: h.subject else h.subject

/-- The line without paint. -/
def line (h : Header) : Text :=
  if h.nameSpace.isEmpty then h.labelledSubject
  else '[' :: (h.nameSpace ++ [']']) ++ ' ' :: h.labelledSubject

/-- The namespace in brackets and the space after it. -/
def bracketed (h : Header) : Text :=
  if h.nameSpace.isEmpty then [] else '[' :: (h.nameSpace ++ [']', ' '])

theorem line_eq_append (h : Header) : h.line = h.bracketed ++ h.labelledSubject := by
  unfold line bracketed
  split <;> simp

/-- The line has nothing of the paint, and of the options only the delimiter. -/
theorem line_withOptions {h : Header} {options : HeaderOptions}
    (hd : options.scopeDelimiter = h.options.scopeDelimiter) (styles : HeaderField → Style) :
    ({ h with options, styles } : Header).line = h.line := by
  have hscope : ({ h with options, styles } : Header).scope = h.scope := by rw [scope, scope, hd]
  unfold line labelledSubject label parenthesized
  rw [hscope]
  rfl

theorem render_eq_line {h : Header} (hs : ∀ field t, (h.styles field).apply t = t) :
    h.render = h.line := by
  have hpaint : ∀ field t, h.painted field t = t := by
    intro field t
    unfold painted
    split
    · rfl
    · exact hs field t
  have hlabel : (if (h.type.isEmpty && h.scopes.isEmpty) = true then ([] : Text) else
      h.type ++ (if h.scopes.isEmpty = true then [] else '(' :: (h.scope ++ [')'])) ++
        h.separator) ++ h.subject = h.labelledSubject := by
    unfold labelledSubject isLabelled label parenthesized separator
    cases h.type.isEmpty && h.scopes.isEmpty <;> cases h.breaking <;> simp
  unfold render line
  simp only [hpaint]
  rw [List.append_assoc, hlabel]
  split <;> simp

/-- What reading a line makes of the fields of a header. -/
structure Tidy (h : Header) : Prop where
  delimiter : h.options.scopeDelimiter = [',']
  nameSpace_trimmed : Text.strip h.nameSpace = h.nameSpace
  nameSpace_plain : ∀ c ∈ h.nameSpace, c ≠ ']' ∧ c ≠ '\n'
  type_word : ∀ c ∈ h.type, Text.isWord c = true
  scopes_nodup : h.scopes.Nodup
  scopes_trimmed : ∀ s ∈ h.scopes, s ≠ [] ∧ Text.strip s = s
  scopes_plain : ∀ s ∈ h.scopes, ∀ c ∈ s, c ≠ ',' ∧ c ≠ ')' ∧ c ≠ '\n'
  subject_trimmed : Text.strip h.subject = h.subject
  subject_line : '\n' ∉ h.subject

/-- What reading makes of the texts of a header with a label, whatever its scopes are divided by:
none has the mark in it that ends it. The namespace and the scopes may have line feeds in them. -/
structure Enclosed (h : Header) : Prop where
  nameSpace_trimmed : Text.strip h.nameSpace = h.nameSpace
  nameSpace_closed : ']' ∉ h.nameSpace
  type_word : ∀ c ∈ h.type, Text.isWord c = true
  scope_closed : ')' ∉ h.scope
  subject_trimmed : Text.strip h.subject = h.subject
  subject_line : '\n' ∉ h.subject

/-- What reading makes of a header with a label whose scopes are divided by commas. -/
structure Framed (h : Header) : Prop extends Enclosed h where
  delimiter : h.options.scopeDelimiter = [',']
  scopes_trimmed : ∀ s ∈ h.scopes, s ≠ [] ∧ Text.strip s = s
  scopes_closed : ∀ s ∈ h.scopes, ∀ c ∈ s, c ≠ ',' ∧ c ≠ ')'

theorem closing_notMem_scope {h : Header} (hd : ')' ∉ h.options.scopeDelimiter)
    (hs : ∀ s ∈ h.scopes, ')' ∉ s) : ')' ∉ h.scope := by
  intro hmem
  rcases Text.mem_join hmem with hc | ⟨s, hin, hc⟩
  · exact hd hc
  · exact hs s hin hc

theorem Tidy.framed {h : Header} (ht : h.Tidy) : h.Framed where
  nameSpace_trimmed := ht.nameSpace_trimmed
  nameSpace_closed := fun hc => (ht.nameSpace_plain _ hc).1 rfl
  type_word := ht.type_word
  scope_closed := closing_notMem_scope (by rw [ht.delimiter]; decide) fun s hs hc =>
    (ht.scopes_plain s hs _ hc).2.1 rfl
  subject_trimmed := ht.subject_trimmed
  subject_line := ht.subject_line
  delimiter := ht.delimiter
  scopes_trimmed := ht.scopes_trimmed
  scopes_closed := fun s hs c hc => ⟨(ht.scopes_plain s hs c hc).1, (ht.scopes_plain s hs c hc).2.1⟩

/-- A header that is read back from its line. Without a label the subject must not read as one,
and without a namespace it must not begin with one. -/
structure Legible (h : Header) : Prop extends Tidy h where
  unlabelled : h.isLabelled = false → h.breaking = false ∧ takeLabel? h.subject = none ∧
    (h.nameSpace = [] → takeNameSpace h.subject = ([], h.subject))

theorem legible_of_isLabelled {h : Header} (ht : h.Tidy) (hl : h.isLabelled = true) :
    h.Legible :=
  ⟨ht, fun h0 => absurd (hl.symm.trans h0) (by simp)⟩

/-- The label that reading finds in a written label. -/
def labelRead (h : Header) : Label := ⟨h.type, h.scope, h.breaking⟩

theorem isText_label {h : Header} (he : h.Enclosed) : h.labelRead.IsText h.label where
  type_word := he.type_word
  scope_closed := he.scope_closed
  eq_append := by
    refine ⟨h.parenthesized, ?_, rfl⟩
    unfold parenthesized
    by_cases hs : h.scopes = []
    · exact Or.inl ⟨by simp [hs], by simp [labelRead, scope, hs]⟩
    · exact Or.inr (if_neg (by simpa using hs))

theorem takeToColon?_label {h : Header} (he : h.Enclosed) (s : Text) :
    takeToColon? (h.label ++ s) = some (h.labelRead, s) :=
  takeToColon?_eq_some_iff.mpr ⟨h.label, isText_label he, rfl⟩

theorem takeLabel?_label {h : Header} (he : h.Enclosed) (s : Text) :
    takeLabel? (h.label ++ Text.spaceBefore s) = some (h.labelRead, s) := by
  rw [takeLabel?_eq_map, takeToColon?_label he, Option.map_some, dropSpace_spaceBefore]

theorem insertScope_cases (scopes : List Text) (s : Text) :
    insertScope scopes s = scopes ∨ insertScope scopes s = scopes ++ [Text.strip s] := by
  unfold insertScope
  dsimp only
  split
  · exact Or.inl rfl
  · exact Or.inr rfl

theorem distinctScopes_concat (values : List Text) (v : Text) :
    distinctScopes (values ++ [v]) = insertScope (distinctScopes values) v := by
  rw [distinctScopes, List.foldl_append]
  rfl

theorem insertScope_of_notMem {scopes : List Text} {s : Text} (hne : s ≠ [])
    (ht : Text.strip s = s) (hs : s ∉ scopes) : insertScope scopes s = scopes ++ [s] := by
  simp [insertScope, ht, hne, hs]

theorem foldl_insertScope {scopes values : List Text}
    (ht : ∀ s ∈ values, s ≠ [] ∧ Text.strip s = s) (hd : (scopes ++ values).Nodup) :
    values.foldl insertScope scopes = scopes ++ values := by
  induction values generalizing scopes with
  | nil => simp
  | cons s values ih =>
    have hs := ht s List.mem_cons_self
    have hnot : s ∉ scopes := by
      intro hmem
      exact (List.nodup_append.mp hd).2.2 s hmem s List.mem_cons_self rfl
    rw [List.foldl_cons, insertScope_of_notMem hs.1 hs.2 hnot,
      ih (fun t h => ht t (List.mem_cons_of_mem s h)) (by simpa using hd)]
    simp

/-- Distinct trimmed scopes are kept as they are. -/
theorem distinctScopes_eq_self {values : List Text}
    (ht : ∀ s ∈ values, s ≠ [] ∧ Text.strip s = s) (hd : values.Nodup) :
    distinctScopes values = values := by
  have := @foldl_insertScope [] _ ht hd
  rw [List.nil_append] at this
  exact this

/-- The scopes that a text in parentheses names. -/
def scopesBetween (delimiter s : Text) : List Text :=
  if s.isEmpty then [] else Text.splitOn delimiter s

/-- The scopes that a text in parentheses names, where they are divided by commas. -/
def scopesRead (s : Text) : List Text := if s.isEmpty then [] else Text.pieces ',' s

theorem scopesBetween_comma (s : Text) : scopesBetween [','] s = scopesRead s := by
  rw [scopesBetween, scopesRead, Text.splitOn_singleton]

theorem mem_of_mem_scopesBetween {delimiter s v : Text} {c : Char} (hd : delimiter ≠ [])
    (hv : v ∈ scopesBetween delimiter s) (hc : c ∈ v) : c ∈ s := by
  unfold scopesBetween at hv
  split at hv
  · simp at hv
  · rw [← Text.join_splitOn s hd]
    exact Text.mem_join_of_mem hv hc

theorem mem_of_mem_scopesRead {s v : Text} {c : Char} (hv : v ∈ scopesRead s) (hc : c ∈ v) :
    c ≠ ',' ∧ c ∈ s := by
  unfold scopesRead at hv
  split at hv
  · simp at hv
  · refine ⟨?_, Text.mem_of_mem_pieces hv hc⟩
    rintro rfl
    exact Text.notMem_of_mem_pieces hv hc

theorem scopesRead_scope {h : Header} (hf : h.Framed) : scopesRead h.scope = h.scopes := by
  unfold scopesRead scope
  rw [hf.delimiter]
  by_cases hs : h.scopes = []
  · simp [hs]
  · have hne : Text.join [','] h.scopes ≠ [] := by
      obtain ⟨s, ss, hss⟩ := List.exists_cons_of_ne_nil hs
      have hmem : s ∈ h.scopes := hss ▸ List.mem_cons_self
      obtain ⟨c, t, hc⟩ := List.exists_cons_of_ne_nil (hf.scopes_trimmed s hmem).1
      exact List.ne_nil_of_mem (Text.mem_join_of_mem hmem (hc ▸ List.mem_cons_self))
    have hplain : ∀ s ∈ h.scopes, ',' ∉ s := fun s hs hc => (hf.scopes_closed s hs _ hc).1 rfl
    rw [if_neg (by simpa using hne), Text.pieces_join hplain hs]

/-- What is read of a line, from the namespace and the label found in it. -/
theorem parse_eq_scopesBetween {options : HeaderOptions} (hd : options.scopeDelimiter ≠ [])
    {line ns rest : Text} {label : Label} {subject : Text}
    (hns : takeNameSpace (Text.strip line) = (ns, rest))
    (hlabel : (takeLabel? rest).getD (⟨[], [], false⟩, rest) = (label, subject))
    (hsubject : '\n' ∉ subject) :
    parse options line = .ok (make options (Text.strip ns) label.type
      (scopesBetween options.scopeDelimiter label.scope) (Text.strip subject) label.breaking) := by
  unfold parse
  simp only [hns, hlabel, hsubject, if_false, scopesBetween]
  split
  · rfl
  · rw [splitScopes, if_neg (by simpa using hd)]
    rfl

theorem parse_eq {options : HeaderOptions} (hd : options.scopeDelimiter = [','])
    {line ns rest : Text} {label : Label} {subject : Text}
    (hns : takeNameSpace (Text.strip line) = (ns, rest))
    (hlabel : (takeLabel? rest).getD (⟨[], [], false⟩, rest) = (label, subject))
    (hsubject : '\n' ∉ subject) :
    parse options line = .ok (make options (Text.strip ns) label.type (scopesRead label.scope)
      (Text.strip subject) label.breaking) := by
  rw [parse_eq_scopesBetween (by simp [hd]) hns hlabel hsubject, hd, scopesBetween_comma]

/-- What is read of a line, for any delimiter of scopes. -/
theorem parse_spec {options : HeaderOptions} {line : Text} {k : Header}
    (hp : parse options line = .ok k) :
    ∃ ns rest label subject, takeNameSpace (Text.strip line) = (ns, rest) ∧
      (takeLabel? rest).getD (⟨[], [], false⟩, rest) = (label, subject) ∧
      (k = make options [] [] [] (Text.strip line) false ∨
        ∃ scopes, Text.join options.scopeDelimiter scopes = label.scope ∧
          k = make options (Text.strip ns) label.type scopes (Text.strip subject)
            label.breaking) := by
  obtain ⟨ns, rest, hns⟩ : ∃ ns rest, takeNameSpace (Text.strip line) = (ns, rest) := ⟨_, _, rfl⟩
  obtain ⟨label, subject, hfound⟩ :
      ∃ label subject, (takeLabel? rest).getD (⟨[], [], false⟩, rest) = (label, subject) :=
    ⟨_, _, rfl⟩
  refine ⟨ns, rest, label, subject, hns, hfound, ?_⟩
  unfold parse at hp
  simp only [hns, hfound] at hp
  split at hp
  · exact Or.inl (Except.ok.inj hp).symm
  right
  split at hp
  · rename_i hscope
    exact ⟨[], by rw [List.isEmpty_iff.mp hscope]; rfl, (Except.ok.inj hp).symm⟩
  · unfold splitScopes at hp
    split at hp
    · cases hp
    · rename_i hd
      exact ⟨_, Text.join_splitOn _ (by simpa using hd), (Except.ok.inj hp).symm⟩

/-- A line whose subject would have a line feed in it is all subject. -/
theorem parse_eq_of_newline {options : HeaderOptions} {line ns rest : Text} {label : Label}
    {subject : Text} (hns : takeNameSpace (Text.strip line) = (ns, rest))
    (hlabel : (takeLabel? rest).getD (⟨[], [], false⟩, rest) = (label, subject))
    (hsubject : '\n' ∈ subject) :
    parse options line = .ok (make options [] [] [] (Text.strip line) false) := by
  unfold parse
  simp only [hns, hlabel, hsubject, if_true]
  rfl

theorem head?_label {h : Header} (he : h.Enclosed) {c : Char} (hc : h.label.head? = some c) :
    Text.isBlank c = false ∧ c ≠ '[' ∧ c ≠ '#' := by
  have hword : ∀ d, Text.isWord d = true → Text.isBlank d = false ∧ d ≠ '[' ∧ d ≠ '#' := by
    intro d hd
    refine ⟨Text.isBlank_of_isWord hd, ?_, ?_⟩
    · rintro rfl
      exact absurd hd (by decide)
    · rintro rfl
      exact absurd hd (by decide)
  unfold label parenthesized at hc
  cases htype : h.type with
  | cons d t =>
    rw [htype] at hc
    simp only [List.cons_append, List.head?_cons, Option.some.injEq] at hc
    rw [← hc]
    exact hword d (he.type_word d (htype ▸ List.mem_cons_self))
  | nil =>
    rw [htype] at hc
    by_cases hs : h.scopes.isEmpty = true
    · cases hb : h.breaking <;> simp [hs, hb] at hc <;> subst hc <;> decide
    · simp only [hs, List.nil_append] at hc
      simp at hc
      subst hc
      decide

theorem getLast?_label (h : Header) : h.label.getLast? = some ':' := by
  unfold label
  cases h.breaking <;> simp [List.getLast?_append]

theorem label_ne_nil (h : Header) : h.label ≠ [] := by
  intro h0
  have := getLast?_label h
  simp [h0] at this

theorem line_ne_nil {h : Header} (hl : h.isLabelled = true) : h.line ≠ [] := by
  unfold line labelledSubject
  rw [if_pos hl]
  split <;> simp

/-- No carriage return is at the end of the line. -/
theorem getLast?_line_ne {h : Header} (ht : h.Tidy) : h.line.getLast? ≠ some '\r' := by
  have hsubject : ∀ c, h.subject.getLast? = some c → c ≠ '\r' := by
    rintro c hc rfl
    exact absurd (Text.getLast?_of_strip ht.subject_trimmed hc) (by decide)
  have hspace : (' ' :: h.subject).getLast? ≠ some '\r' := by
    cases hs : h.subject with
    | nil => decide
    | cons c s =>
      rw [List.getLast?_cons_cons, ← hs]
      exact fun hc => hsubject _ hc rfl
  have hrest : h.labelledSubject.getLast? ≠ some '\r' := by
    unfold labelledSubject
    split
    · rw [List.getLast?_append_of_ne_nil _ (by simp)]
      exact hspace
    · exact fun hc => hsubject _ hc rfl
  unfold line
  split
  · exact hrest
  · rw [List.getLast?_append_of_ne_nil _ (by simp)]
    cases hl : h.labelledSubject with
    | nil => decide
    | cons c s =>
      rw [List.getLast?_cons_cons, ← hl]
      exact hrest

/-- The line of a labelled header is no comment. -/
theorem head?_line_ne {h : Header} (ht : h.Tidy) (hl : h.isLabelled = true) :
    h.line.head? ≠ some '#' := by
  intro hc
  unfold line labelledSubject at hc
  rw [if_pos hl] at hc
  split at hc
  · rw [List.head?_append_of_ne_nil _ (label_ne_nil h)] at hc
    exact (head?_label ht.framed.toEnclosed hc).2.2 rfl
  · exact absurd (Option.some.inj hc) (by decide)

theorem newline_notMem_label {h : Header} (ht : h.Tidy) : '\n' ∉ h.label := by
  have htype : '\n' ∉ h.type := by
    intro hc
    exact absurd (ht.type_word _ hc) (by decide)
  have hscope : '\n' ∉ h.scope := by
    intro hc
    rcases Text.mem_join hc with hc | ⟨s, hs, hc⟩
    · rw [ht.delimiter] at hc
      exact absurd hc (by decide)
    · exact (ht.scopes_plain s hs _ hc).2.2 rfl
  unfold label parenthesized
  cases h.breaking <;> cases h.scopes.isEmpty <;> simp [htype, hscope]

/-- The written form of a tidy header is one line. -/
theorem newline_notMem_line {h : Header} (ht : h.Tidy) : '\n' ∉ h.line := by
  have hlabel := newline_notMem_label ht
  have hns : '\n' ∉ h.nameSpace := fun hc => (ht.nameSpace_plain _ hc).2 rfl
  have hrest : '\n' ∉ h.labelledSubject := by
    unfold labelledSubject
    split
    · simp [hlabel, ht.subject_line]
    · exact ht.subject_line
  unfold line
  split
  · exact hrest
  · simp [hns, hrest]

/-- The label and the subject, without the space that an empty subject leaves. -/
def core (h : Header) : Text :=
  if h.isLabelled then h.label ++ Text.spaceBefore h.subject else h.subject

theorem head?_labelledSubject {h : Header} (he : h.Enclosed) {c : Char}
    (hc : h.labelledSubject.head? = some c) : Text.isBlank c = false := by
  unfold labelledSubject at hc
  split at hc
  · obtain ⟨d, t, hd⟩ := List.exists_cons_of_ne_nil (label_ne_nil h)
    rw [hd] at hc
    exact (head?_label he (by rw [hd]; simpa using hc)).1
  · exact Text.head?_of_strip he.subject_trimmed hc

theorem strip_labelledSubject {h : Header} (he : h.Enclosed) :
    Text.strip h.labelledSubject = h.core := by
  unfold labelledSubject core
  split
  · rw [Text.strip_append_space (label_ne_nil h) (fun c hc => (head?_label he hc).1)
      (fun c hc => ?_) (fun c => Text.head?_of_strip he.subject_trimmed), he.subject_trimmed]
    rw [getLast?_label] at hc
    rw [← Option.some.inj hc]
    decide
  · exact he.subject_trimmed

theorem strip_line {h : Header} (he : h.Enclosed) :
    Text.strip h.line = if h.nameSpace.isEmpty then h.core
      else '[' :: (h.nameSpace ++ [']']) ++ Text.spaceBefore h.core := by
  unfold line
  split
  · exact strip_labelledSubject he
  · rw [Text.strip_append_space (by simp) (by simp; decide) ?_
      (fun c => head?_labelledSubject he), strip_labelledSubject he]
    intro c hc
    simp only [List.getLast?_cons, List.getLast?_append] at hc
    simp at hc
    subst hc
    decide

theorem takeNameSpace_core_of_isLabelled {h : Header} (he : h.Enclosed)
    (hl : h.isLabelled = true) : takeNameSpace h.core = ([], h.core) := by
  rw [core, if_pos hl]
  apply takeNameSpace_of_head
  intro hc
  rw [List.head?_append_of_ne_nil _ (label_ne_nil h)] at hc
  exact (head?_label he hc).2.1 rfl

theorem takeNameSpace_core {h : Header} (hl : h.Legible) (hns : h.nameSpace = []) :
    takeNameSpace h.core = ([], h.core) := by
  cases hlab : h.isLabelled with
  | true => exact takeNameSpace_core_of_isLabelled hl.framed.toEnclosed hlab
  | false => simpa [core, hlab] using (hl.unlabelled hlab).2.2 hns

theorem takeNameSpace_strip_line {h : Header} (he : h.Enclosed)
    (hcore : h.nameSpace = [] → takeNameSpace h.core = ([], h.core)) :
    takeNameSpace (Text.strip h.line) = (h.nameSpace, h.core) := by
  rw [strip_line he]
  cases hns : h.nameSpace with
  | nil => simpa using hcore hns
  | cons c ns =>
    have hclosed : ']' ∉ c :: ns := hns ▸ he.nameSpace_closed
    simp only [List.isEmpty_cons, Bool.false_eq_true, if_false]
    rw [takeNameSpace_bracketed hclosed, dropSpace_spaceBefore]

/-- A line with a label is read back, but for the scopes, which are those that its scopes in their
joined form name. -/
theorem parse_line_of_enclosed {h : Header} (he : h.Enclosed) (hl : h.isLabelled = true)
    {options : HeaderOptions} (hd : options.scopeDelimiter ≠ []) :
    parse options h.line = .ok
      { h with
        scopes := distinctScopes (scopesBetween options.scopeDelimiter h.scope)
        options
        styles := fun _ => .plain } := by
  have hread : (takeLabel? h.core).getD (⟨[], [], false⟩, h.core) = (h.labelRead, h.subject) := by
    simp [core, hl, takeLabel?_label he]
  rw [parse_eq_scopesBetween hd
    (takeNameSpace_strip_line he fun _ => takeNameSpace_core_of_isLabelled he hl) hread
    he.subject_line]
  simp only [make, labelRead, he.nameSpace_trimmed, he.subject_trimmed]

/-- A line with a label is read back, up to repeated scopes. -/
theorem parse_line_of_isLabelled {h : Header} (hf : h.Framed) (hl : h.isLabelled = true)
    {options : HeaderOptions} (hd : options.scopeDelimiter = [',']) :
    parse options h.line =
      .ok { h with scopes := distinctScopes h.scopes, options, styles := fun _ => .plain } := by
  rw [parse_line_of_enclosed hf.toEnclosed hl (by simp [hd]), hd, scopesBetween_comma,
    scopesRead_scope hf]

/-- Reading undoes writing for a legible header, up to its paint. -/
theorem parse_line {h : Header} (hl : h.Legible) {options : HeaderOptions}
    (hd : options.scopeDelimiter = [',']) :
    parse options h.line = .ok { h with options, styles := fun _ => .plain } := by
  cases hlab : h.isLabelled with
  | true =>
    rw [parse_line_of_isLabelled hl.framed hlab hd,
      distinctScopes_eq_self hl.scopes_trimmed hl.scopes_nodup]
  | false =>
    obtain ⟨hbreaking, hnone, -⟩ := hl.unlabelled hlab
    have hread : (takeLabel? h.core).getD (⟨[], [], false⟩, h.core) =
        (⟨[], [], false⟩, h.subject) := by
      simp [core, hlab, hnone]
    have hempty : h.type = [] ∧ h.scopes = [] := by simpa [isLabelled] using hlab
    rw [parse_eq hd (takeNameSpace_strip_line hl.framed.toEnclosed (takeNameSpace_core hl)) hread
      hl.subject_line]
    simp only [make, scopesRead, List.isEmpty_nil, if_true, hempty.1, hempty.2, hbreaking,
      hl.nameSpace_trimmed, hl.subject_trimmed]
    rfl

theorem foldl_insertScope_spec {scopes values : List Text} (hd : scopes.Nodup)
    (hs : ∀ s ∈ scopes, s ≠ []) :
    (values.foldl insertScope scopes).Nodup ∧
      ∀ s ∈ values.foldl insertScope scopes,
        s ≠ [] ∧ (s ∈ scopes ∨ ∃ v ∈ values, s = Text.strip v) := by
  induction values generalizing scopes with
  | nil => exact ⟨hd, fun s h => ⟨hs s h, Or.inl h⟩⟩
  | cons v values ih =>
    have hstep : (insertScope scopes v).Nodup ∧
        ∀ s ∈ insertScope scopes v, s ≠ [] ∧ (s ∈ scopes ∨ s = Text.strip v) := by
      unfold insertScope
      dsimp only
      split
      · exact ⟨hd, fun s h => ⟨hs s h, Or.inl h⟩⟩
      · rename_i hnew
        simp only [Bool.or_eq_true, List.isEmpty_iff, List.contains_iff_mem, not_or] at hnew
        refine ⟨?_, ?_⟩
        · rw [List.nodup_append]
          refine ⟨hd, by simp, ?_⟩
          rintro a ha b hb rfl
          exact hnew.2 (List.mem_singleton.mp hb ▸ ha)
        · intro s h
          rcases List.mem_append.mp h with h | h
          · exact ⟨hs s h, Or.inl h⟩
          · rw [List.mem_singleton.mp h]
            exact ⟨hnew.1, Or.inr rfl⟩
    have hnext := ih hstep.1 fun s h => (hstep.2 s h).1
    refine ⟨hnext.1, ?_⟩
    intro s h
    obtain ⟨hne, hmem⟩ := hnext.2 s h
    refine ⟨hne, ?_⟩
    rcases hmem with hmem | ⟨w, hw, rfl⟩
    · rcases (hstep.2 s hmem).2 with hold | rfl
      · exact Or.inl hold
      · exact Or.inr ⟨v, List.mem_cons_self, rfl⟩
    · exact Or.inr ⟨w, List.mem_cons_of_mem v hw, rfl⟩

/-- Scopes are kept distinct, trimmed and not empty. -/
theorem distinctScopes_spec (values : List Text) :
    (distinctScopes values).Nodup ∧
      ∀ s ∈ distinctScopes values, s ≠ [] ∧ ∃ v ∈ values, s = Text.strip v := by
  have h := @foldl_insertScope_spec [] values List.nodup_nil (by simp)
  refine ⟨h.1, fun s hs => ?_⟩
  obtain ⟨hne, hmem⟩ := h.2 s hs
  exact ⟨hne, hmem.resolve_left (by simp)⟩

theorem join_distinctScopes_singleton (delimiter s : Text) :
    Text.join delimiter (distinctScopes [s]) = Text.strip s := by
  simp only [distinctScopes, List.foldl_cons, List.foldl_nil, insertScope]
  split
  · rename_i hempty
    simpa using hempty
  · rfl

/-- A text that is closed names scopes whose joined form is, even where the delimiter could close
it: then it is no delimiter of the text. -/
theorem closing_notMem_join_distinctScopes {delimiter s : Text} (hd : delimiter ≠ [])
    (hs : ')' ∉ s) : ')' ∉ Text.join delimiter (distinctScopes (scopesBetween delimiter s)) := by
  by_cases hin : delimiter <:+: s
  · intro hmem
    rcases Text.mem_join hmem with hc | ⟨p, hp, hc⟩
    · exact hs (hin.subset hc)
    · obtain ⟨-, v, hv, rfl⟩ := (distinctScopes_spec _).2 p hp
      exact hs (mem_of_mem_scopesBetween hd hv (Text.mem_of_mem_strip hc))
  · unfold scopesBetween
    split
    · simp [distinctScopes]
    · rw [Text.splitOn_eq_singleton hin, join_distinctScopes_singleton]
      exact fun hc => hs (Text.mem_of_mem_strip hc)

/-- What is found in a line: a namespace, then a label and a subject, or only a subject. -/
theorem parse_cases {options : HeaderOptions} (hd : options.scopeDelimiter = [',']) {line : Text}
    (hn : '\n' ∉ line) :
    ∃ ns rest label subject, takeNameSpace (Text.strip line) = (ns, rest) ∧
      (takeLabel? rest = some (label, subject) ∨
        takeLabel? rest = none ∧ label = ⟨[], [], false⟩ ∧ subject = rest) ∧
      parse options line = .ok (make options (Text.strip ns) label.type (scopesRead label.scope)
        (Text.strip subject) label.breaking) := by
  obtain ⟨ns, rest, hns⟩ : ∃ ns rest, takeNameSpace (Text.strip line) = (ns, rest) := ⟨_, _, rfl⟩
  have hrest : ∀ c ∈ rest, c ∈ line :=
    fun c hc => Text.mem_of_mem_strip ((takeNameSpace_suffix hns).1.subset hc)
  cases hlabel : takeLabel? rest with
  | none =>
    exact ⟨ns, rest, _, _, hns, Or.inr ⟨hlabel, rfl, rfl⟩,
      parse_eq hd hns (by rw [hlabel]; rfl) fun hc => hn (hrest _ hc)⟩
  | some found =>
    obtain ⟨label, subject⟩ := found
    obtain ⟨tail, htail, rfl, -, -⟩ := takeLabel?_eq_some hlabel
    refine ⟨ns, rest, label, _, hns, Or.inl hlabel, parse_eq hd hns (by rw [hlabel]; rfl) ?_⟩
    intro hc
    exact hn (hrest _ (htail.subset (List.mem_cons_of_mem _ ((dropSpace_suffix tail).subset hc))))

theorem exists_parse {options : HeaderOptions} (hd : options.scopeDelimiter = [','])
    {line : Text} (hn : '\n' ∉ line) : ∃ h, parse options line = .ok h := by
  obtain ⟨_, _, _, _, -, -, hp⟩ := parse_cases hd hn
  exact ⟨_, hp⟩

theorem exists_parse_standard {line : Text} (hn : '\n' ∉ line) :
    ∃ h, parse .standard line = .ok h :=
  exists_parse rfl hn

/-- Whether scopes are found in a line. -/
def namesScopes (line : Text) : Bool :=
  match takeLabel? (takeNameSpace (Text.strip line)).2 with
  | some (label, subject) => decide ('\n' ∉ subject) && !label.scope.isEmpty
  | none => false

/-- A line cannot be read only if its scopes are to be split at nothing. -/
theorem exists_parse_iff {options : HeaderOptions} {line : Text} :
    (∃ h, parse options line = .ok h) ↔
      (options.scopeDelimiter = [] → namesScopes line = false) := by
  unfold parse namesScopes
  dsimp only
  cases takeLabel? (takeNameSpace (Text.strip line)).2 with
  | none =>
    refine iff_of_true ?_ fun _ => rfl
    rw [Option.getD_none]
    split
    · exact ⟨_, rfl⟩
    · exact ⟨_, rfl⟩
  | some found =>
    obtain ⟨label, subject⟩ := found
    rw [Option.getD_some]
    dsimp only
    by_cases hlines : '\n' ∈ subject
    · rw [if_pos hlines]
      exact iff_of_true ⟨_, rfl⟩ fun _ => by simp [hlines]
    rw [if_neg hlines]
    cases hscope : label.scope.isEmpty with
    | true => exact iff_of_true ⟨_, rfl⟩ fun _ => by simp
    | false =>
      rw [if_neg (by simp)]
      cases options.scopeDelimiter with
      | nil =>
        refine iff_of_false ?_ fun h => by simp [hlines] at h
        rintro ⟨h, hparse⟩
        cases hparse
      | cons c cs => exact iff_of_true ⟨_, rfl⟩ fun h => nomatch h

section Reading

variable {options : HeaderOptions} {line : Text} {h : Header}

/-- The type is a word and the scopes are closed, where there is a label. -/
theorem label_closed {rest subject : Text} {label : Label}
    (hlabel : (takeLabel? rest).getD (⟨[], [], false⟩, rest) = (label, subject)) :
    (∀ c ∈ label.type, Text.isWord c = true) ∧ ')' ∉ label.scope := by
  cases hfound : takeLabel? rest with
  | none =>
    rw [hfound, Option.getD_none, Prod.mk.injEq] at hlabel
    obtain ⟨rfl, -⟩ := hlabel
    simp
  | some found =>
    rw [hfound, Option.getD_some] at hlabel
    obtain ⟨tail, -, -, htype, hscope⟩ := takeLabel?_eq_some (hlabel ▸ hfound)
    exact ⟨htype, fun hc => (hscope _ hc).2 rfl⟩

/-- What a namespace, a label and a subject that were found leave in the fields. -/
theorem enclosed_make (hd : options.scopeDelimiter ≠ []) {ns rest : Text} {label : Label}
    {subject : Text} (hns : takeNameSpace (Text.strip line) = (ns, rest))
    (hlabel : (takeLabel? rest).getD (⟨[], [], false⟩, rest) = (label, subject))
    (hsubject : '\n' ∉ subject) :
    (make options (Text.strip ns) label.type (scopesBetween options.scopeDelimiter label.scope)
      (Text.strip subject) label.breaking).Enclosed := by
  obtain ⟨htype, hscope⟩ := label_closed hlabel
  exact {
    nameSpace_trimmed := Text.strip_strip ns
    nameSpace_closed := fun hc => (takeNameSpace_suffix hns).2.2 (Text.mem_of_mem_strip hc)
    type_word := htype
    scope_closed := closing_notMem_join_distinctScopes hd hscope
    subject_trimmed := Text.strip_strip subject
    subject_line := fun hc => hsubject (Text.mem_of_mem_strip hc) }

theorem framed_make (hd : options.scopeDelimiter = [',']) {ns rest : Text} {label : Label}
    {subject : Text} (hns : takeNameSpace (Text.strip line) = (ns, rest))
    (hlabel : (takeLabel? rest).getD (⟨[], [], false⟩, rest) = (label, subject))
    (hsubject : '\n' ∉ subject) :
    (make options (Text.strip ns) label.type (scopesRead label.scope) (Text.strip subject)
      label.breaking).Framed := by
  have hne : options.scopeDelimiter ≠ [] := by simp [hd]
  have he := enclosed_make hne hns hlabel hsubject
  rw [hd, scopesBetween_comma] at he
  have hscope := (label_closed hlabel).2
  have hscopes := distinctScopes_spec (scopesRead label.scope)
  exact {
    toEnclosed := he
    delimiter := hd
    scopes_trimmed := by
      intro s hs
      obtain ⟨hne, v, -, rfl⟩ := hscopes.2 s hs
      exact ⟨hne, Text.strip_strip v⟩
    scopes_closed := by
      intro s hs c hc
      obtain ⟨-, v, hv, rfl⟩ := hscopes.2 s hs
      have hmem := Text.mem_of_mem_strip hc
      obtain ⟨hcomma, hin⟩ := mem_of_mem_scopesRead hv hmem
      exact ⟨hcomma, fun he => hscope (he ▸ hin)⟩ }

/-- A line without a line feed is read as a tidy header without paint. -/
theorem tidy_of_parse (hd : options.scopeDelimiter = [',']) (hn : '\n' ∉ line)
    (hp : parse options line = .ok h) :
    h.Tidy ∧ ∀ field t, (h.styles field).apply t = t := by
  obtain ⟨ns, rest, label, subject, hns, hlabel, hparse⟩ := parse_cases hd hn
  obtain ⟨hrest, hin, -⟩ := takeNameSpace_suffix hns
  have hline : ∀ c ∈ rest, c ≠ '\n' := by
    rintro c hc rfl
    exact hn (Text.mem_of_mem_strip (hrest.subset hc))
  obtain ⟨hscope, hsubject⟩ : (∀ c ∈ label.scope, c ∈ rest) ∧ ∀ c ∈ subject, c ∈ rest := by
    rcases hlabel with hlabel | ⟨-, rfl, rfl⟩
    · obtain ⟨tail, htail, rfl, -, hscope⟩ := takeLabel?_eq_some hlabel
      exact ⟨fun c hc => (hscope c hc).1, fun c hc =>
        htail.subset (List.mem_cons_of_mem _ ((dropSpace_suffix tail).subset hc))⟩
    · simp
  have hfound : (takeLabel? rest).getD (⟨[], [], false⟩, rest) = (label, subject) := by
    rcases hlabel with hlabel | ⟨hnone, rfl, rfl⟩
    · rw [hlabel, Option.getD_some]
    · rw [hnone, Option.getD_none]
  have hf := framed_make hd hns hfound fun hc => hline _ (hsubject _ hc) rfl
  have hscopes := distinctScopes_spec (scopesRead label.scope)
  rw [hp, Except.ok.injEq] at hparse
  subst hparse
  refine ⟨{
    delimiter := hd
    nameSpace_trimmed := hf.nameSpace_trimmed
    nameSpace_plain := ?_
    type_word := hf.type_word
    scopes_nodup := hscopes.1
    scopes_trimmed := hf.scopes_trimmed
    scopes_plain := ?_
    subject_trimmed := hf.subject_trimmed
    subject_line := hf.subject_line }, fun _ _ => rfl⟩
  · intro c hc
    refine ⟨?_, ?_⟩
    · rintro rfl
      exact hf.nameSpace_closed hc
    · rintro rfl
      exact hn (Text.mem_of_mem_strip (hin _ (Text.mem_of_mem_strip hc)))
  · intro s hs c hc
    obtain ⟨hcomma, hclose⟩ := hf.scopes_closed s hs c hc
    obtain ⟨-, v, hv, rfl⟩ := hscopes.2 s hs
    exact ⟨hcomma, hclose,
      hline c (hscope c (mem_of_mem_scopesRead hv (Text.mem_of_mem_strip hc)).2)⟩

/-- A line with a label is framed, its scopes are distinct, and there is no paint. -/
theorem framed_of_parse (hd : options.scopeDelimiter = [',']) (hp : parse options line = .ok h)
    (hl : h.isLabelled = true) :
    h.Framed ∧ h.scopes.Nodup ∧ h.options = options ∧ h.styles = fun _ => .plain := by
  obtain ⟨ns, rest, hns⟩ : ∃ ns rest, takeNameSpace (Text.strip line) = (ns, rest) := ⟨_, _, rfl⟩
  obtain ⟨label, subject, hfound⟩ :
      ∃ label subject, (takeLabel? rest).getD (⟨[], [], false⟩, rest) = (label, subject) :=
    ⟨_, _, rfl⟩
  by_cases hsubject : '\n' ∈ subject
  · rw [parse_eq_of_newline hns hfound hsubject, Except.ok.injEq] at hp
    subst hp
    exact absurd hl Bool.false_ne_true
  · have hf := framed_make hd hns hfound hsubject
    rw [parse_eq hd hns hfound hsubject, Except.ok.injEq] at hp
    subst hp
    exact ⟨hf, (distinctScopes_spec _).1, rfl, rfl⟩

end Reading

/-- A header whose line it was read from is legible. -/
theorem legible_of_parse {options : HeaderOptions} (hd : options.scopeDelimiter = [','])
    {line : Text} (hn : '\n' ∉ line) {h : Header} (hp : parse options line = .ok h)
    (hline : h.line = line) : h.Legible := by
  have ht := (tidy_of_parse hd hn hp).1
  cases hlab : h.isLabelled with
  | true => exact legible_of_isLabelled ht hlab
  | false =>
    obtain ⟨ns, rest, label, subject, hns, hlabel, hparse⟩ := parse_cases hd hn
    rw [hp, Except.ok.injEq] at hparse
    have hsub : h.subject = Text.strip subject := by rw [hparse]; rfl
    have hbr : h.breaking = label.breaking := by rw [hparse]; rfl
    have hle : h.subject.length ≤ subject.length := hsub ▸ Text.length_strip_le subject
    have hstrip := strip_line ht.framed.toEnclosed
    rw [hline] at hstrip
    have hcore : h.core = h.subject := by simp [core, hlab]
    rw [hcore] at hstrip
    -- The rest after the namespace is the subject, so that no label can have been taken off.
    obtain ⟨hrest, hopen⟩ : rest.length ≤ h.subject.length ∧
        (h.nameSpace ≠ [] → rest = h.subject) := by
      by_cases h0 : h.nameSpace = []
      · rw [h0, List.isEmpty_nil, if_pos rfl] at hstrip
        refine ⟨?_, fun hne => absurd h0 hne⟩
        rw [hstrip] at hns
        exact (takeNameSpace_suffix hns).1.length_le
      · have hclosed : ']' ∉ h.nameSpace := fun hc => (ht.nameSpace_plain _ hc).1 rfl
        rw [if_neg (by simpa using h0)] at hstrip
        rw [hstrip, takeNameSpace_bracketed hclosed, dropSpace_spaceBefore, Prod.mk.injEq] at hns
        exact ⟨le_of_eq (congrArg _ hns.2.symm), fun _ => hns.2.symm⟩
    obtain ⟨hnone, rfl, rfl⟩ :
        takeLabel? rest = none ∧ label = ⟨[], [], false⟩ ∧ subject = rest := by
      refine hlabel.resolve_left fun hsome => ?_
      obtain ⟨tail, htail, rfl, -, -⟩ := takeLabel?_eq_some hsome
      have h1 := htail.length_le
      have h2 := (dropSpace_suffix tail).length_le
      simp only [List.length_cons] at h1
      omega
    refine ⟨ht, fun _ => ⟨hbr, ?_⟩⟩
    by_cases h0 : h.nameSpace = []
    · rw [h0, List.isEmpty_nil, if_pos rfl] at hstrip
      rw [hstrip] at hns
      rcases takeNameSpace_cases h.subject with hs | ⟨a, b, -, he, hs⟩
      · rw [hs, Prod.mk.injEq] at hns
        rw [hns.2]
        exact ⟨hnone, fun _ => by rw [← hns.2, hs]⟩
      · rw [hs, Prod.mk.injEq] at hns
        have h1 := (dropSpace_suffix b).length_le
        have h2 := congrArg List.length he
        have h3 := congrArg List.length hns.2
        simp only [List.length_cons, List.length_append] at h2
        omega
    · rw [← hopen h0]
      exact ⟨hnone, fun hne => absurd hne h0⟩

/-- A line that is written for a legible header. -/
def IsWritten (line : Text) : Prop := ∃ h : Header, h.Legible ∧ h.line = line

theorem isWritten_nil : IsWritten [] := by
  refine ⟨make .standard [] [] [] [] false, ⟨?_, fun _ => ?_⟩, rfl⟩
  · constructor <;> first | rfl | simp [make, distinctScopes]
  · exact ⟨rfl, rfl, fun _ => rfl⟩

/-- Reading and writing leave exactly the lines of legible headers alone. -/
theorem render_parse_iff {options : HeaderOptions} (hd : options.scopeDelimiter = [','])
    {line : Text} (hn : '\n' ∉ line) :
    (∃ h, parse options line = .ok h ∧ h.render = line) ↔ IsWritten line := by
  constructor
  · rintro ⟨h, hp, hr⟩
    rw [render_eq_line (tidy_of_parse hd hn hp).2] at hr
    exact ⟨h, legible_of_parse hd hn hp hr, hr⟩
  · rintro ⟨h, hl, rfl⟩
    refine ⟨_, parse_line hl hd, ?_⟩
    rw [render_eq_line fun _ _ => rfl, line_withOptions (hd.trans hl.delimiter.symm)]

end CommitStandard.Header
