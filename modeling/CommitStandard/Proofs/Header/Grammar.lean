import Mathlib.Tactic
import CommitStandard.Proofs.Header.RoundTrip

/-!
# The grammar of a header

A trimmed line opens with a namespace in brackets or with none (`IsOpening`), and what is left
of it is a labelled subject in at most one way (`Reading.IsOf.unique`). Reading the line finds
that way if there is one; otherwise all that is left is the subject (`parse_grammar`).
-/
namespace CommitStandard.Header

/-- A namespace in brackets at the start of a text with what is left after it and one space, or
no namespace and the whole text where nothing stands in brackets at its start. -/
inductive IsOpening (s : Text) : Text → Text → Prop where
  | spaced {x r : Text} (closed : ']' ∉ x) (eq : s = '[' :: (x ++ ']' :: ' ' :: r)) :
      IsOpening s x r
  | bare {x r : Text} (closed : ']' ∉ x) (head : r.head? ≠ some ' ')
      (eq : s = '[' :: (x ++ ']' :: r)) : IsOpening s x r
  | absent (h : ∀ x r, ']' ∉ x → s ≠ '[' :: (x ++ ']' :: r)) : IsOpening s [] s

section Opening

variable {s x r : Text}

theorem dropSpace_eq_self (h : s.head? ≠ some ' ') : dropSpace s = s := by
  unfold dropSpace
  split
  · exact absurd rfl h
  · rfl

/-- What is taken off the start of a text as a namespace is its opening. -/
theorem isOpening_iff : IsOpening s x r ↔ takeNameSpace s = (x, r) := by
  constructor
  · rintro (⟨hx, rfl⟩ | ⟨hx, hr, rfl⟩ | habsent)
    · simpa [dropSpace] using takeNameSpace_bracketed hx (' ' :: r)
    · simpa [dropSpace_eq_self hr] using takeNameSpace_bracketed hx r
    · rcases takeNameSpace_cases s with hs | ⟨a, b, ha, hs, -⟩
      · exact hs
      · exact absurd hs (habsent a b ha)
  · intro htake
    by_cases hbracketed : ∃ a b, ']' ∉ a ∧ s = '[' :: (a ++ ']' :: b)
    · obtain ⟨a, b, ha, rfl⟩ := hbracketed
      have hab : (a, dropSpace b) = (x, r) := by
        rw [← htake, ← takeNameSpace_bracketed ha b]
        simp
      obtain ⟨rfl, rfl⟩ := Prod.mk.inj hab
      by_cases hb : b.head? = some ' '
      · obtain ⟨t, rfl⟩ := List.head?_eq_some_iff.mp hb
        exact .spaced ha rfl
      · rw [dropSpace_eq_self hb]
        exact .bare ha hb rfl
    · rcases takeNameSpace_cases s with hs | ⟨a, b, ha, hs, -⟩
      · obtain ⟨rfl, rfl⟩ := Prod.mk.inj (hs.symm.trans htake)
        exact .absent fun a b ha hs => hbracketed ⟨a, b, ha, hs⟩
      · exact absurd ⟨a, b, ha, hs⟩ hbracketed

end Opening

/-- A labelled subject taken apart: a word, a text in parentheses and an exclamation mark, each of
which may be missing, and what follows the colon after them. -/
structure Reading where
  word : Text
  scope? : Option Text
  marked : Bool
  tail : Text

namespace Reading

def parenthesized (d : Reading) : Text :=
  match d.scope? with
  | none => []
  | some y => '(' :: (y ++ [')'])

/-- What was taken apart. -/
def text (d : Reading) : Text :=
  d.word ++ (d.parenthesized ++ ((if d.marked then ['!'] else []) ++ ':' :: d.tail))

/-- Whether a text is taken apart in this way. -/
structure IsOf (d : Reading) (r : Text) : Prop where
  word_word : ∀ c ∈ d.word, Text.isWord c = true
  scope_closed : ∀ y, d.scope? = some y → ')' ∉ y
  text_eq : d.text = r

/-- The distinct texts between commas in the parentheses, trimmed and in order, without blank
ones. -/
def scopes (d : Reading) : List Text :=
  match d.scope? with
  | none => []
  | some y => (((List.splitOn ',' y).map Text.strip).filter fun s => !s.isEmpty).eraseDups

/-- The label before the colon. -/
def label (d : Reading) : Label := ⟨d.word, d.scope?.getD [], d.marked⟩

variable {d e : Reading} {r : Text}

theorem IsOf.takeToColon?_eq (h : d.IsOf r) : takeToColon? r = some (d.label, d.tail) := by
  obtain ⟨word, scope?, marked, tail⟩ := d
  rw [takeToColon?_eq_some_iff, ← h.text_eq]
  refine ⟨_, ⟨h.word_word, ?_, parenthesized ⟨word, scope?, marked, tail⟩, ?_, rfl⟩, ?_⟩
  · cases scope? with
    | none => simp [label]
    | some y => exact h.scope_closed y rfl
  · cases scope? with
    | none => exact Or.inl ⟨rfl, rfl⟩
    | some y => exact Or.inr rfl
  · cases marked <;> simp [text, label]

/-- There is at most one way to take a text apart: its word ends where the first other character
stands, its parentheses at the first closing one, and the colon comes next. -/
theorem IsOf.unique (hd : d.IsOf r) (he : e.IsOf r) : d = e := by
  have hfound : (d.label, d.tail) = (e.label, e.tail) :=
    Option.some.inj (hd.takeToColon?_eq.symm.trans he.takeToColon?_eq)
  have htext : d.text = e.text := hd.text_eq.trans he.text_eq.symm
  obtain ⟨word, dscope, marked, tail⟩ := d
  obtain ⟨word', escope, marked', tail'⟩ := e
  obtain ⟨⟨rfl, hscope, rfl⟩, rfl⟩ : (word = word' ∧ dscope.getD [] = escope.getD [] ∧
      marked = marked') ∧ tail = tail' := by simpa [label] using hfound
  -- Missing parentheses differ from empty ones by the text alone.
  have hparens : parenthesized ⟨word, dscope, marked, tail⟩ =
      parenthesized ⟨word, escope, marked, tail⟩ := by
    simpa [text] using htext
  cases dscope <;> cases escope <;> simp_all [parenthesized]

theorem exists_isOf {label : Label} {tail : Text} (h : Header.takeToColon? r = some (label, tail)) :
    ∃ d : Reading, d.IsOf r := by
  obtain ⟨t, ⟨hword, hclosed, parenthesized, hp, rfl⟩, rfl⟩ := takeToColon?_eq_some_iff.mp h
  obtain ⟨word, scope, marked⟩ := label
  rcases hp with ⟨rfl, hscope⟩ | rfl
  · refine ⟨⟨word, none, marked, tail⟩, hword, by simp, ?_⟩
    cases marked <;> simp [text, Reading.parenthesized]
  · refine ⟨⟨word, some scope, marked, tail⟩, hword, by simpa using hclosed, ?_⟩
    cases marked <;> simp [text, Reading.parenthesized]

end Reading

/-- The scopes that are kept of several texts. -/
theorem distinctScopes_eq_eraseDups (values : List Text) :
    distinctScopes values =
      ((values.map Text.strip).filter fun s => !s.isEmpty).eraseDups := by
  induction values using List.reverseRecOn with
  | nil => rfl
  | append_singleton values v ih =>
    rw [distinctScopes_concat, ih, insertScope, List.map_append, List.filter_append,
      List.eraseDups_append]
    obtain ⟨kept, hkept⟩ : ∃ kept, kept = (values.map Text.strip).filter fun s => !s.isEmpty :=
      ⟨_, rfl⟩
    rw [← hkept]
    by_cases hempty : (Text.strip v).isEmpty = true
    · simp [hempty]
    · have hone : ([v].map Text.strip).filter (fun s => !s.isEmpty) = [Text.strip v] := by
        simp [hempty]
      rw [hone]
      by_cases hmem : Text.strip v ∈ kept
      · simp [hempty, hmem, List.removeAll]
      · simp [hempty, hmem, List.removeAll, List.eraseDups_cons]

/-- Nothing is lost between the parentheses and the scopes. -/
theorem Reading.distinctScopes_label (d : Reading) :
    distinctScopes (scopesRead d.label.scope) = d.scopes := by
  obtain ⟨word, scope?, marked, tail⟩ := d
  cases scope? with
  | none => rfl
  | some y =>
    show distinctScopes (scopesRead y) = _
    by_cases hy : y = []
    · rw [hy]
      rfl
    · rw [scopesRead, if_neg (by simpa using hy), distinctScopes_eq_eraseDups,
        Text.pieces_eq_splitOn]
      rfl

theorem strip_dropSpace (s : Text) : Text.strip (dropSpace s) = Text.strip s := by
  unfold dropSpace
  split
  · rfl
  · rfl

section Parsing

variable {options : HeaderOptions} {line x r : Text}

/-- A line that can be taken apart is read as it is taken apart. -/
theorem parse_of_isOf (hd : options.scopeDelimiter = [',']) (hn : '\n' ∉ line)
    (hopening : takeNameSpace (Text.strip line) = (x, r)) {d : Reading} (h : d.IsOf r) :
    parse options line = .ok ⟨Text.strip x, d.word, d.scopes, Text.strip d.tail, d.marked,
      options, fun _ => .plain⟩ := by
  have hlabel : (takeLabel? r).getD (⟨[], [], false⟩, r) = (d.label, dropSpace d.tail) := by
    rw [takeLabel?_eq_map, h.takeToColon?_eq]
    rfl
  have hsubject : '\n' ∉ dropSpace d.tail := by
    intro hc
    have hr : '\n' ∈ r := by
      rw [← h.text_eq, Reading.text]
      simp [(dropSpace_suffix d.tail).subset hc]
    exact hn (Text.mem_of_mem_strip ((takeNameSpace_suffix hopening).1.subset hr))
  rw [parse_eq hd hopening hlabel hsubject, make, d.distinctScopes_label, strip_dropSpace]
  rfl

/-- A line that cannot be taken apart is read as a subject. -/
theorem parse_of_forall_not_isOf (hd : options.scopeDelimiter = [',']) (hn : '\n' ∉ line)
    (hopening : takeNameSpace (Text.strip line) = (x, r)) (h : ∀ d : Reading, ¬d.IsOf r) :
    parse options line = .ok ⟨Text.strip x, [], [], Text.strip r, false, options,
      fun _ => .plain⟩ := by
  have hlabel : (takeLabel? r).getD (⟨[], [], false⟩, r) = (⟨[], [], false⟩, r) := by
    rw [takeLabel?_eq_map]
    cases hfound : takeToColon? r with
    | none => rfl
    | some found =>
      obtain ⟨d, hd⟩ := Reading.exists_isOf hfound
      exact absurd hd (h d)
  have hsubject : '\n' ∉ r := fun hc =>
    hn (Text.mem_of_mem_strip ((takeNameSpace_suffix hopening).1.subset hc))
  rw [parse_eq hd hopening hlabel hsubject]
  rfl

/-- A line opens in one way, and what is left of it can be taken apart in at most one. The
namespace is that of the opening; type, scopes, mark and subject are those of the way in which the
rest is taken apart, and the whole rest is the subject if there is none. -/
theorem parse_grammar (hd : options.scopeDelimiter = [',']) (hn : '\n' ∉ line) :
    (∃! o : Text × Text, IsOpening (Text.strip line) o.1 o.2) ∧
      ∀ x r, IsOpening (Text.strip line) x r →
      (∀ d e : Reading, d.IsOf r → e.IsOf r → d = e) ∧
      (∀ d : Reading, d.IsOf r → parse options line = .ok ⟨Text.strip x, d.word, d.scopes,
        Text.strip d.tail, d.marked, options, fun _ => .plain⟩) ∧
      ((∀ d : Reading, ¬d.IsOf r) → parse options line = .ok ⟨Text.strip x, [], [],
        Text.strip r, false, options, fun _ => .plain⟩) := by
  refine ⟨⟨_, isOpening_iff.mpr rfl, fun o ho => (isOpening_iff.mp ho).symm⟩,
    fun x r hopening => ?_⟩
  rw [isOpening_iff] at hopening
  exact ⟨fun d e => Reading.IsOf.unique, fun d h => parse_of_isOf hd hn hopening h,
    parse_of_forall_not_isOf hd hn hopening⟩

/-- A namespace, scopes of which one is repeated and one blank, and a mark. -/
theorem parse_grammar_repeatedScope :
    HeaderOptions.standard.scopeDelimiter = [','] ∧
      '\n' ∉ " [ core ] feat( api,, db,api )!:  Add x ".toList ∧
      ∃ h, parse .standard " [ core ] feat( api,, db,api )!:  Add x ".toList = .ok h ∧
        h.nameSpace = "core".toList ∧ h.type = "feat".toList ∧
        h.scopes = ["api".toList, "db".toList] ∧ h.breaking = true ∧
        h.subject = "Add x".toList := by
  have hopening : IsOpening (Text.strip " [ core ] feat( api,, db,api )!:  Add x ".toList)
      " core ".toList "feat( api,, db,api )!:  Add x".toList :=
    .spaced (by decide) (by decide)
  let d : Reading := ⟨"feat".toList, some " api,, db,api ".toList, true, "  Add x".toList⟩
  have hof : d.IsOf "feat( api,, db,api )!:  Add x".toList :=
    ⟨List.all_eq_true.mp rfl, by simp [d], by decide⟩
  have hcomma : HeaderOptions.standard.scopeDelimiter = [','] := rfl
  have hparse := ((parse_grammar hcomma (by decide)).2 _ _ hopening).2.1 d hof
  exact ⟨hcomma, by decide, _, hparse, by decide, rfl, by decide, rfl, by decide⟩

end Parsing

end CommitStandard.Header
