import Mathlib.Data.List.DropRight
import Mathlib.Tactic
import CommitStandard.Namespace
import CommitStandard.Proofs.Text.Lines

/-!
# What directory patterns give

A pattern gives a namespace to the paths below its directory: a wildcard the name of
the directory that comes next on the path, which has to go on below it
(`namespaceOf?_wildcard_iff`), and every other pattern the name of its own directory
(`namespaceOf?_literal_iff`). Of several patterns the first that gives one decides.
-/
namespace CommitStandard

section First

variable {α β : Type*} {f : α → Option β} {l : List α} {a : α} {b : β}

/-- Where all results are the same, it does not matter which is the first. -/
theorem findSome?_eq_some_of_mem (ha : a ∈ l) (hb : f a = some b)
    (hsame : ∀ x ∈ l, ∀ c, f x = some c → c = b) : l.findSome? f = some b := by
  cases h : l.findSome? f with
  | none =>
    rw [List.findSome?_eq_none_iff.mp h a ha] at hb
    cases hb
  | some c =>
    obtain ⟨x, hx, hc⟩ := List.exists_of_findSome?_eq_some h
    rw [hsame x hx c hc]

/-- Elements without a result may be left out. -/
theorem findSome?_filter_not {p : α → Bool} (h : (l.filter p).findSome? f = none) :
    (l.filter fun x => !p x).findSome? f = l.findSome? f := by
  induction l with
  | nil => rfl
  | cons x l ih =>
    by_cases hp : p x = true
    · rw [List.filter_cons_of_pos hp, List.findSome?_cons] at h
      rw [List.filter_cons_of_neg (by simp [hp]), List.findSome?_cons]
      cases hx : f x with
      | some b =>
        rw [hx] at h
        cases h
      | none =>
        rw [hx] at h
        exact ih h
    · rw [List.filter_cons_of_neg hp] at h
      rw [List.filter_cons_of_pos (by simp [hp]), List.findSome?_cons, List.findSome?_cons, ih h]

/-- The first result of each part is that of its element. -/
theorem findSome?_flatMap {g : α → List α} (h : ∀ x ∈ l, (g x).findSome? f = f x) :
    (l.flatMap g).findSome? f = l.findSome? f := by
  induction l with
  | nil => rfl
  | cons x l ih =>
    rw [List.flatMap_cons, List.findSome?_append, h x List.mem_cons_self,
      ih fun y hy => h y (List.mem_cons_of_mem x hy), List.findSome?_cons]
    cases f x <;> rfl

end First

namespace FilePath

variable {path name : Text}

@[simp] theorem withSlashes_append (s t : Text) :
    withSlashes (s ++ t) = withSlashes s ++ withSlashes t := List.map_append

theorem withSlashes_eq_self (h : '\\' ∉ path) : withSlashes path = path := by
  refine (List.map_congr_left fun c hc => ?_).trans (List.map_id path)
  rw [if_neg (ne_of_mem_of_not_mem hc h), id]

theorem backslash_notMem_withSlashes (path : Text) : '\\' ∉ withSlashes path := by
  intro h
  obtain ⟨c, -, hc⟩ := List.mem_map.mp h
  split at hc
  · exact absurd hc (by decide)
  · contradiction

theorem slash_notMem_baseName (path : Text) : '/' ∉ baseName path := by
  intro h
  have hc := List.mem_takeWhile_imp (List.mem_reverse.mp h)
  simp at hc

theorem baseName_eq_self (h : '/' ∉ name) : baseName name = name := by
  rw [baseName, List.takeWhile_eq_self_iff.mpr, List.reverse_reverse]
  intro c hc
  simpa using ne_of_mem_of_not_mem (List.mem_reverse.mp hc) h

/-- What precedes a slash does not count. -/
theorem baseName_append (directory path : Text) :
    baseName (directory ++ '/' :: path) = baseName path := by
  unfold baseName
  rw [List.reverse_append, List.reverse_cons, List.append_assoc, List.takeWhile_append]
  split
  · rename_i hall
    have hself : path.reverse.takeWhile (fun c => decide (c ≠ '/')) = path.reverse :=
      (List.takeWhile_prefix _).eq_of_length hall
    rw [hself]
    simp
  · rfl

/-- A path is its last name, or that name below a directory. -/
theorem eq_baseName_or (path : Text) :
    path = baseName path ∨ ∃ directory, path = directory ++ '/' :: baseName path := by
  by_cases h : '/' ∈ path
  · obtain ⟨last, before, hpath, hlast⟩ := List.eq_append_cons_of_mem (List.mem_reverse.mpr h)
    obtain rfl : path = before.reverse ++ '/' :: last.reverse := by
      rw [← List.reverse_reverse path, hpath]
      simp
    right
    rw [baseName_append, baseName_eq_self (by simpa using hlast)]
    exact ⟨before.reverse, rfl⟩
  · exact Or.inl (baseName_eq_self h).symm

end FilePath

namespace DirectoryPattern

open FilePath

variable {directory pattern path name : Text}

/-- A directory below which no slash is left over. -/
theorem dropEnd_slash (h : directory.getLast? ≠ some '/') :
    Text.dropEnd (· = '/') directory = directory := by
  refine List.rdropWhile_eq_self_iff.mpr fun hne hlast => h ?_
  rw [List.getLast?_eq_some_getLast hne, of_decide_eq_true hlast]

/-- A slash at the end is left out. -/
theorem dropEnd_concat_slash (path : Text) :
    Text.dropEnd (· = '/') (path ++ ['/']) = Text.dropEnd (· = '/') path :=
  List.rdropWhile_concat_pos _ _ _ (by simp)

theorem read_wildcard (hb : '\\' ∉ directory) (hs : directory.getLast? ≠ some '/') :
    read (directory ++ ['/', '*']) = ⟨directory, true⟩ := by
  have hslashes : withSlashes (directory ++ ['/', '*']) = directory ++ ['/', '*'] :=
    withSlashes_eq_self (by simpa using hb)
  unfold read
  simp only [hslashes, List.reverse_append, List.reverse_cons, List.reverse_nil, List.nil_append,
    List.cons_append, List.reverse_reverse, dropEnd_slash hs]

theorem read_literal (h : ¬ ['/', '*'] <:+ withSlashes pattern) :
    read pattern = ⟨Text.dropEnd (· = '/') (withSlashes pattern), false⟩ := by
  unfold read
  dsimp only
  split
  · rename_i rest hrest
    refine absurd ⟨rest.reverse, ?_⟩ h
    rw [← List.reverse_reverse (withSlashes pattern), hrest]
    simp
  · rfl

theorem takeWhile_slash (h : '/' ∉ name) (rest : Text) :
    (name ++ '/' :: rest).takeWhile (· ≠ '/') = name := by
  rw [List.takeWhile_append_of_pos fun c hc => by simpa using ne_of_mem_of_not_mem hc h]
  simp

/-- A wildcard gives the name of the next directory to the paths that go on below it. -/
theorem namespaceOf?_wildcard_iff :
    (⟨directory, true⟩ : DirectoryPattern).namespaceOf? path = some name ↔
      '/' ∉ name ∧ ∃ rest, path = directory ++ '/' :: (name ++ '/' :: rest) := by
  have hdrop : ∀ inside : Text,
      (directory ++ '/' :: inside).drop (directory.length + 1) = inside := by simp
  unfold namespaceOf?
  simp only [List.isPrefixOf_iff_prefix, if_true]
  constructor
  · intro h
    split at h
    · rename_i hprefix
      obtain ⟨inside, rfl⟩ := hprefix
      rw [List.append_assoc, List.singleton_append, hdrop] at h
      split at h
      · rename_i hslash
        obtain ⟨first, rest, rfl, hfirst⟩ := List.eq_append_cons_of_mem hslash
        rw [takeWhile_slash hfirst, Option.some.injEq] at h
        subst h
        exact ⟨hfirst, rest, by simp⟩
      · cases h
    · cases h
  · rintro ⟨hname, rest, rfl⟩
    rw [if_pos ⟨name ++ '/' :: rest, by simp⟩, hdrop, if_pos (by simp), takeWhile_slash hname]

/-- A pattern without a wildcard gives the name of its directory to the paths below it. -/
theorem namespaceOf?_literal_iff :
    (⟨directory, false⟩ : DirectoryPattern).namespaceOf? path = some name ↔
      name = FilePath.baseName directory ∧ ∃ rest, path = directory ++ '/' :: rest := by
  unfold namespaceOf?
  simp only [List.isPrefixOf_iff_prefix, Bool.false_eq_true, if_false]
  constructor
  · intro h
    split at h
    · rename_i hprefix
      obtain ⟨rest, rfl⟩ := hprefix
      exact ⟨(Option.some.inj h).symm, rest, by simp⟩
    · cases h
  · rintro ⟨rfl, rest, rfl⟩
    rw [if_pos ⟨rest, by simp⟩]

theorem slash_mem_of_namespaceOf? {p : DirectoryPattern} (h : p.namespaceOf? path = some name) :
    '/' ∈ path := by
  obtain ⟨directory, wildcard⟩ := p
  cases wildcard with
  | true =>
    obtain ⟨-, rest, rfl⟩ := namespaceOf?_wildcard_iff.mp h
    simp
  | false =>
    obtain ⟨-, rest, rfl⟩ := namespaceOf?_literal_iff.mp h
    simp

end DirectoryPattern

/-- The first pattern that gives a namespace to a file decides. -/
theorem Resolver.namespaceOf?_ofPatterns (patterns : List Text) (file : Text) :
    (ofPatterns patterns).namespaceOf? file = patterns.findSome? fun p =>
      (DirectoryPattern.read p).namespaceOf? (FilePath.withSlashes file) := by
  rw [namespaceOf?, ofPatterns, List.findSome?_map]
  split
  · rfl
  · rename_i hslash
    refine (List.findSome?_eq_none_iff.mpr fun p _ => ?_).symm
    rw [Option.eq_none_iff_forall_ne_some]
    exact fun name h => hslash (DirectoryPattern.slash_mem_of_namespaceOf? h)

end CommitStandard
