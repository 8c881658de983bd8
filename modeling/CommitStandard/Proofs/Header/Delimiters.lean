import Mathlib.Tactic
import CommitStandard.Proofs.Header.Cutting

/-!
# Delimiters of scopes

The scopes of a header are written with a delimiter between them and split at it again. They come
back unless a scope runs into the delimiter after it (`scopes_of_parse_line_iff`), which trimming
can bring about: with `--`, the scopes `a- --b` are written as `a---b`. No line has this effect
exactly if the delimiter does not overlap itself (`scopes_reread_iff`).
-/
namespace CommitStandard.Header

variable {options : HeaderOptions} {line : Text} {h k : Header}

section Scopes

variable {delimiter : Text}

/-- Tidying leaves scopes alone that it makes no shorter in their joined form. -/
theorem distinctScopes_eq_self_of_length (hd : delimiter ≠ []) {values : List Text}
    (hne : distinctScopes values ≠ [])
    (h : (Text.join delimiter values).length ≤
      (Text.join delimiter (distinctScopes values)).length) :
    distinctScopes values = values := by
  have hpos := List.length_pos_iff.mpr hd
  induction values using List.reverseRecOn with
  | nil => rfl
  | append_singleton values v ih =>
    have hle := length_join_distinctScopes_le delimiter values
    have hstrip := Text.length_strip_le v
    have hempty : values = [] → distinctScopes values = [] := by
      rintro rfl
      rfl
    rw [distinctScopes_concat, length_join_concat] at h
    rw [distinctScopes_concat] at hne ⊢
    rcases insertScope_cases (distinctScopes values) v with hadded | hadded
    · -- A value that is left out is not the first one, and takes its delimiter with it.
      rw [hadded] at h hne
      rw [if_neg (fun hnil => hne (hempty hnil))] at h
      omega
    · rw [hadded, length_join_concat] at h
      have hnil : values = [] ↔ distinctScopes values = [] := by
        refine ⟨hempty, fun hnone => ?_⟩
        by_contra hsome
        rw [if_neg hsome, if_pos hnone, hnone, Text.join_nil, List.length_nil] at h
        omega
      simp only [hnil] at h
      have hsame : Text.strip v = v :=
        (Text.isInfix_trimEnds Text.isBlank v).eq_of_length_le
          (show v.length ≤ (Text.strip v).length by split at h <;> omega)
      rw [hadded, hsame]
      by_cases hnone : distinctScopes values = []
      · rw [hnone, hnil.mpr hnone]
      · rw [ih hnone (by rw [if_neg hnone] at h; omega)]

/-- A scope that is named between delimiters does not hold one. -/
theorem not_infix_of_mem_distinctScopes (hd : delimiter ≠ []) {s v : Text}
    (hv : v ∈ distinctScopes (scopesBetween delimiter s)) : ¬delimiter <:+: v := by
  obtain ⟨-, w, hw, rfl⟩ := (distinctScopes_spec _).2 v hv
  unfold scopesBetween at hw
  split at hw
  · simp at hw
  · exact fun h => Text.not_infix_of_mem_splitOn hd hw
      (h.trans (Text.isInfix_trimEnds Text.isBlank w))

/-- The scopes that the joined form of scopes names are the same ones exactly if none runs into the
delimiter after it. -/
theorem distinctScopes_join_iff (hd : delimiter ≠ []) {ss : List Text} (hnodup : ss.Nodup)
    (htrimmed : ∀ s ∈ ss, s ≠ [] ∧ Text.strip s = s) (hapart : ∀ s ∈ ss, ¬delimiter <:+: s) :
    distinctScopes (scopesBetween delimiter (Text.join delimiter ss)) = ss ↔
      ∀ s ∈ ss.dropLast, ¬Text.RunsInto delimiter s := by
  by_cases hss : ss = []
  · subst hss
    exact iff_of_true rfl (by simp)
  have hjoin : Text.join delimiter ss ≠ [] := by
    obtain ⟨s, hs⟩ := List.exists_mem_of_ne_nil ss hss
    obtain ⟨c, hc⟩ := List.exists_mem_of_ne_nil s (htrimmed s hs).1
    exact List.ne_nil_of_mem (Text.mem_join_of_mem hs hc)
  rw [scopesBetween, if_neg (by simpa using hjoin), ← Text.splitOn_join_iff hd hss hapart]
  constructor
  · intro hsame
    have hlength : (Text.join delimiter (Text.splitOn delimiter (Text.join delimiter ss))).length ≤
        (Text.join delimiter
          (distinctScopes (Text.splitOn delimiter (Text.join delimiter ss)))).length := by
      rw [hsame, Text.join_splitOn _ hd]
    rw [← distinctScopes_eq_self_of_length hd (by rwa [hsame]) hlength, hsame]
  · intro hsame
    rw [hsame]
    exact distinctScopes_eq_self htrimmed hnodup

end Scopes

/-- A line with a label is read as an enclosed header without paint, with scopes that are named
between delimiters. -/
theorem enclosed_of_parse (hd : options.scopeDelimiter ≠ []) (hp : parse options line = .ok h)
    (hl : h.isLabelled = true) :
    h.Enclosed ∧ h.options = options ∧ (h.styles = fun _ => .plain) ∧
      ∃ s, h.scopes = distinctScopes (scopesBetween options.scopeDelimiter s) := by
  obtain ⟨ns, rest, hns⟩ : ∃ ns rest, takeNameSpace (Text.strip line) = (ns, rest) := ⟨_, _, rfl⟩
  obtain ⟨label, subject, hfound⟩ :
      ∃ label subject, (takeLabel? rest).getD (⟨[], [], false⟩, rest) = (label, subject) :=
    ⟨_, _, rfl⟩
  by_cases hsubject : '\n' ∈ subject
  · rw [parse_eq_of_newline hns hfound hsubject, Except.ok.injEq] at hp
    subst hp
    exact absurd hl Bool.false_ne_true
  · have he := enclosed_make hd hns hfound hsubject
    rw [parse_eq_scopesBetween hd hns hfound hsubject, Except.ok.injEq] at hp
    subst hp
    exact ⟨he, rfl, rfl, label.scope, rfl⟩

theorem isLabelled_of_type_ne_nil (ht : h.type ≠ []) : h.isLabelled = true := by
  simp [isLabelled, ht]

/-- A line with a label is written and read again with the same scopes exactly if none of them runs
into the delimiter after it. -/
theorem scopes_of_parse_line_iff (hd : options.scopeDelimiter ≠ [])
    (hp : parse options line = .ok h) (hl : h.isLabelled = true) :
    ∃ k, parse options h.render = .ok k ∧
      (k.scopes = h.scopes ↔
        ∀ s ∈ h.scopes.dropLast, ¬Text.RunsInto options.scopeDelimiter s) := by
  obtain ⟨he, hoptions, hstyles, s, hs⟩ := enclosed_of_parse hd hp hl
  have hrender : h.render = h.line := render_eq_line fun field t => by rw [hstyles]; rfl
  refine ⟨_, by rw [hrender, parse_line_of_enclosed he hl hd], ?_⟩
  have hspec := distinctScopes_spec (scopesBetween options.scopeDelimiter s)
  rw [← hs] at hspec
  rw [scope, hoptions]
  refine distinctScopes_join_iff hd hspec.1 (fun v hv => ?_) fun v hv => ?_
  · obtain ⟨hne, w, -, rfl⟩ := hspec.2 v hv
    exact ⟨hne, Text.strip_strip w⟩
  · rw [hs] at hv
    exact not_infix_of_mem_distinctScopes hd hv

/-! ## Delimiters that overlap themselves -/

/-- A delimiter that can be met sooner in a trimmed text and the delimiter after it: it ends with
the beginning that is left when a part is taken off that no blank ends. A parenthesis never divides
scopes. -/
def OverlapsItself (delimiter : Text) : Prop :=
  ')' ∉ delimiter ∧ ∃ n < delimiter.length, 0 < n ∧ delimiter.drop n <+: delimiter ∧
    (delimiter.take n).getLast?.any Text.isBlank = false

instance (delimiter : Text) : Decidable (OverlapsItself delimiter) :=
  inferInstanceAs (Decidable (')' ∉ delimiter ∧ ∃ n < delimiter.length, 0 < n ∧
    delimiter.drop n <+: delimiter ∧ (delimiter.take n).getLast?.any Text.isBlank = false))

section Overlaps

variable {delimiter : Text}

/-- The delimiter stands in the joined form of two scopes. -/
theorem mem_join_of_mem_delimiter {ss : List Text} {s : Text} (hs : s ∈ ss.dropLast) {c : Char}
    (hc : c ∈ delimiter) : c ∈ Text.join delimiter ss := by
  match ss with
  | [] => simp at hs
  | [_] => simp at hs
  | a :: b :: ss =>
    rw [Text.join_cons _ _ (by simp)]
    simp [hc]

theorem overlapsItself_of_runsInto {ss : List Text} (hclosed : ')' ∉ Text.join delimiter ss)
    {s : Text} (hs : s ∈ ss.dropLast) (htrimmed : Text.strip s = s)
    (hr : Text.RunsInto delimiter s) : OverlapsItself delimiter := by
  obtain ⟨n, hn, hpos, hend, hdrop⟩ := hr
  refine ⟨fun hc => hclosed (mem_join_of_mem_delimiter hs hc), n, hn, hpos, hdrop, ?_⟩
  have hne : delimiter.take n ≠ [] := by
    rw [← List.length_pos_iff, List.length_take]
    omega
  obtain ⟨before, rfl⟩ := hend
  rw [List.getLast?_eq_some_getLast hne, Option.any_some]
  refine Text.getLast?_of_strip htrimmed ?_
  rw [List.getLast?_append_of_ne_nil _ hne, List.getLast?_eq_some_getLast hne]

theorem strip_append_replicate {b : Char} (hb : Text.isBlank b = true) (s : Text) (n : ℕ) :
    Text.strip (s ++ List.replicate n b) = Text.strip s := by
  induction n with
  | zero => simp
  | succ n ih => rw [List.replicate_succ', ← List.append_assoc, Text.strip_concat hb, ih]

/-- The first of two scopes, with blanks after it up to the delimiter, and the second one. -/
def paddedScopes (delimiter s : Text) (b : Char) : Text :=
  s ++ List.replicate delimiter.length b ++ delimiter ++ ['x']

/-- The scopes that are named there, if the first begins with a letter and the delimiter with
another one, and the blanks are none that the delimiter ends with. -/
theorem distinctScopes_paddedScopes {a b : Char} {s : Text} (ha : delimiter.head? ≠ some a)
    (hb : delimiter.getLast? ≠ some b) (hblank : Text.isBlank b = true)
    (hne : s ≠ []) (hs : s.length < delimiter.length) (htrimmed : Text.strip (a :: s) = a :: s) :
    distinctScopes (scopesBetween delimiter (paddedScopes delimiter (a :: s) b)) =
      [a :: s, ['x']] := by
  have hpos := List.length_pos_iff.mpr hne
  have hd : delimiter ≠ [] := List.length_pos_iff.mp (by omega)
  have hshort : ¬delimiter <:+: ['x'] := by
    intro h
    have hle := h.length_le
    rw [List.length_singleton] at hle
    omega
  have hsplit : scopesBetween delimiter (paddedScopes delimiter (a :: s) b) =
      [a :: s ++ List.replicate delimiter.length b, ['x']] := by
    rw [paddedScopes, scopesBetween, if_neg (by simp), Text.splitOn_append hd
      (Text.not_infix_cons_append_replicate ha hb hd hs _)
      (Text.not_runsInto_append_replicate hb _), Text.splitOn_eq_singleton hshort]
  have hstrip : Text.strip (a :: s ++ List.replicate delimiter.length b) = a :: s := by
    rw [strip_append_replicate hblank, htrimmed]
  have hx : Text.strip ['x'] = ['x'] := by decide
  rw [hsplit]
  simp only [distinctScopes, List.foldl_cons, List.foldl_nil, insertScope, hstrip, hx]
  simp [Ne.symm hne]

/-- Where the delimiter overlaps itself, there are two scopes whose joined form does not name them,
although they are named between delimiters. -/
theorem exists_scopes_of_overlapsItself (ho : OverlapsItself delimiter) :
    ∃ s, ')' ∉ s ∧ ∃ v ∈ (distinctScopes (scopesBetween delimiter s)).dropLast,
      Text.RunsInto delimiter v := by
  obtain ⟨hclosed, n, hn, hpos, hdrop, hlast⟩ := ho
  obtain ⟨b, hblank, hb, hbc⟩ :
      ∃ b, Text.isBlank b = true ∧ delimiter.getLast? ≠ some b ∧ b ≠ ')' := by
    by_cases hspace : delimiter.getLast? = some ' '
    · exact ⟨'\t', by decide, by rw [hspace]; decide, by decide⟩
    · exact ⟨' ', by decide, hspace, by decide⟩
  obtain ⟨a, hletter, ha, hac⟩ :
      ∃ a, Text.isBlank a = false ∧ delimiter.head? ≠ some a ∧ a ≠ ')' := by
    by_cases hx : delimiter.head? = some 'x'
    · exact ⟨'y', by decide, by rw [hx]; decide, by decide⟩
    · exact ⟨'x', by decide, hx, by decide⟩
  have hlength : (delimiter.take n).length = n := by
    rw [List.length_take]
    omega
  have hne : delimiter.take n ≠ [] := List.length_pos_iff.mp (by omega)
  have htrimmed : Text.strip (a :: delimiter.take n) = a :: delimiter.take n := by
    refine Text.strip_eq_self (fun c hc => ?_) fun c hc => ?_
    · rw [← Option.some.inj hc]
      exact hletter
    · rw [List.getLast?_cons_of_ne_nil hne] at hc
      simpa [hc] using hlast
  refine ⟨paddedScopes delimiter (a :: delimiter.take n) b, ?_, a :: delimiter.take n, ?_,
    n, hn, hpos, List.suffix_cons _ _, hdrop⟩
  · have htake : ')' ∉ delimiter.take n := fun hc => hclosed (List.mem_of_mem_take hc)
    simp [paddedScopes, hclosed, htake, Ne.symm hac, Ne.symm hbc]
  · rw [distinctScopes_paddedScopes ha hb hblank hne (by omega) htrimmed]
    simp

/-- A line with a type that names scopes. -/
theorem exists_parse_eq_of_scopes (hd : options.scopeDelimiter ≠ []) {s : Text} (hs : ')' ∉ s) :
    ∃ line h, parse options line = .ok h ∧ h.type ≠ [] ∧
      h.scopes = distinctScopes (scopesBetween options.scopeDelimiter s) := by
  let g : Header := ⟨[], ['x'], [s], [], false, options, fun _ => .plain⟩
  have he : g.Enclosed := by
    constructor
    case scope_closed => exact hs
    all_goals simp [g]
    decide
  exact ⟨g.line, _, parse_line_of_enclosed he rfl hd, List.cons_ne_nil _ _, rfl⟩

end Overlaps

/-- With a delimiter, every line can be read. If it has a type, what is written for it can be read
again, with the same scopes exactly if none of them runs into the delimiter after it. No line fails
exactly if the delimiter does not overlap itself. -/
theorem scopes_reread_iff (hd : options.scopeDelimiter ≠ []) :
    (∀ line, ∃ h, parse options line = .ok h ∧ (h.type ≠ [] →
      ∃ k, parse options h.render = .ok k ∧
        (k.scopes = h.scopes ↔
          ∀ s ∈ h.scopes.dropLast, ¬Text.RunsInto options.scopeDelimiter s))) ∧
    ((∀ line h k, parse options line = .ok h → h.type ≠ [] → parse options h.render = .ok k →
        k.scopes = h.scopes) ↔ ¬OverlapsItself options.scopeDelimiter) := by
  refine ⟨fun line => ?_, fun hsame ho => ?_, fun ho line h k hp ht hk => ?_⟩
  · obtain ⟨h, hp⟩ := (@exists_parse_iff options line).mpr fun hempty => absurd hempty hd
    exact ⟨h, hp, fun ht => scopes_of_parse_line_iff hd hp (isLabelled_of_type_ne_nil ht)⟩
  · obtain ⟨s, hs, v, hv, hr⟩ := exists_scopes_of_overlapsItself ho
    obtain ⟨line, h, hp, ht, hscopes⟩ := exists_parse_eq_of_scopes hd hs
    obtain ⟨k, hk, hiff⟩ := scopes_of_parse_line_iff hd hp (isLabelled_of_type_ne_nil ht)
    exact hiff.mp (hsame line h k hp ht hk) v (hscopes ▸ hv) hr
  · have hl := isLabelled_of_type_ne_nil ht
    obtain ⟨he, hoptions, -, s, hs⟩ := enclosed_of_parse hd hp hl
    obtain ⟨k', hk', hiff⟩ := scopes_of_parse_line_iff hd hp hl
    cases hk.symm.trans hk'
    have htrimmed : ∀ v ∈ h.scopes, Text.strip v = v := by
      intro v hv
      obtain ⟨-, w, -, rfl⟩ := (distinctScopes_spec _).2 v (hs ▸ hv)
      exact Text.strip_strip w
    have hclosed : ')' ∉ Text.join options.scopeDelimiter h.scopes := hoptions ▸ he.scope_closed
    exact hiff.mpr fun v hv hr => ho (overlapsItself_of_runsInto hclosed hv
      (htrimmed v (List.mem_of_mem_dropLast hv)) hr)

/-- Two hyphens between scopes. -/
def hyphenated : HeaderOptions := ⟨"--".toList, HeaderOptions.standard.breakingEmoji⟩

theorem scopes_reread_iff_hyphenated :
    hyphenated.scopeDelimiter ≠ [] ∧ OverlapsItself hyphenated.scopeDelimiter ∧
      ∃ h k, parse hyphenated "feat(api --db-x): Add x".toList = .ok h ∧
        parse hyphenated h.render = .ok k ∧
        h.scopes = ["api".toList, "db-x".toList] ∧ k.scopes = h.scopes := by
  have hd : hyphenated.scopeDelimiter ≠ [] := by decide
  obtain ⟨h, hp, hreread⟩ := (scopes_reread_iff hd).1 "feat(api --db-x): Add x".toList
  have hread : parse hyphenated "feat(api --db-x): Add x".toList =
      .ok (make hyphenated [] "feat".toList ["api".toList, "db-x".toList] "Add x".toList false) :=
    rfl
  cases hp.symm.trans hread
  obtain ⟨k, hk, hiff⟩ := hreread (by decide)
  exact ⟨by decide, by decide, _, k, hp, hk, by decide, hiff.mpr (by decide)⟩

/-- A hyphen at the end of a scope and the delimiter after it are read as the delimiter and a hyphen
at the beginning of the next scope. -/
theorem scopes_reread_hyphenated :
    ∃ h k, parse hyphenated "feat(a- --b): Add x".toList = .ok h ∧ h.type ≠ [] ∧
      h.render = "feat(a---b): Add x".toList ∧ parse hyphenated h.render = .ok k ∧
      h.scopes = ["a-".toList, "b".toList] ∧ k.scopes = ["a".toList, "-b".toList] :=
  ⟨make hyphenated [] "feat".toList ["a-".toList, "b".toList] "Add x".toList false,
    make hyphenated [] "feat".toList ["a".toList, "-b".toList] "Add x".toList false,
    rfl, by decide, by decide, rfl, by decide, by decide⟩

end CommitStandard.Header
