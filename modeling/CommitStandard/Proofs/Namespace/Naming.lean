import Mathlib.Tactic
import CommitStandard.Proofs.Namespace.Expansion

/-!
# The names of written directories

The list of namespaces is given the last name of each directory that is written for
the rule about changed files. A directory is also read as a pattern, with forward
slashes for backslashes. `eq_directoryName_iff` says that the name that it gives to
files is its own unless its last name has a backslash in it, and `namespaceOf?_listed`
for which files the namespace is a listed one.
-/
namespace CommitStandard

namespace FilePath

variable {path : Text} {c : Char}

theorem mem_of_mem_baseName (h : c ∈ baseName path) : c ∈ path := by
  rcases eq_baseName_or path with hpath | ⟨directory, hpath⟩
  · rwa [hpath]
  · rw [hpath]
    simp [h]

/-- The last character of a path belongs to its last name. -/
theorem getLast?_mem_baseName (h : path.getLast? = some c) (hc : c ≠ '/') : c ∈ baseName path := by
  rcases eq_baseName_or path with hpath | ⟨directory, hpath⟩
  · rw [← hpath]
    exact List.mem_of_getLast? h
  · rw [hpath, List.append_cons] at h
    rcases List.eq_nil_or_concat (baseName path) with hnil | ⟨front, last, hlast⟩
    · rw [hnil, List.append_nil, List.getLast?_concat] at h
      exact absurd (Option.some.inj h).symm hc
    · rw [hlast, List.concat_eq_append, ← List.append_assoc, List.getLast?_concat] at h
      rw [hlast, ← Option.some.inj h]
      simp

theorem baseName_withSlashes (h : '\\' ∉ baseName path) :
    baseName (withSlashes path) = baseName path := by
  have hname := withSlashes_eq_self h
  rcases eq_baseName_or path with hpath | ⟨directory, hpath⟩
  · rw [hpath, hname, ← hpath]
  · have hshape : withSlashes path = withSlashes directory ++ '/' :: baseName path := by
      conv_lhs => rw [hpath]
      rw [withSlashes_append]
      exact congrArg (withSlashes directory ++ '/' :: ·) hname
    rw [hshape, baseName_append, baseName_eq_self (slash_notMem_baseName path)]

/-- Slashes at the end are cut off alike before and after backslashes are replaced. -/
theorem dropEnd_withSlashes (h : (Text.dropEnd (· = '/') path).getLast? ≠ some '\\') :
    Text.dropEnd (· = '/') (withSlashes path) = withSlashes (Text.dropEnd (· = '/') path) := by
  induction path using List.reverseRecOn with
  | nil => rfl
  | append_singleton path d ih =>
    by_cases hd : d = '/'
    · subst hd
      rw [DirectoryPattern.dropEnd_concat_slash] at h ⊢
      rw [withSlashes_append, ← ih h]
      exact DirectoryPattern.dropEnd_concat_slash _
    · have hself : Text.dropEnd (fun c => decide (c = '/')) (path ++ [d]) = path ++ [d] :=
        List.rdropWhile_concat_neg _ _ _ (by simpa using hd)
      rw [hself, List.getLast?_concat, ne_eq, Option.some.injEq] at h
      have hslashes : withSlashes [d] = [d] := withSlashes_eq_self (by simpa using Ne.symm h)
      rw [hself, withSlashes_append, hslashes]
      exact List.rdropWhile_concat_neg _ _ _ (by simpa using hd)

end FilePath

open FilePath

namespace Settings

section Names

variable {room : Nat} {listing : Listing} {rules : Entries} {names directories : List Text}
  {path name file : Text}

/-- A pattern that is read as a wildcard ends in one, or in a backslash and a star. -/
theorem suffix_of_withSlashes (h : ['/', '*'] <:+ withSlashes path) :
    ['/', '*'] <:+ path ∨ ['\\', '*'] <:+ path := by
  obtain ⟨rest, hrest⟩ := h
  obtain ⟨front, back, rfl, -, hback⟩ := List.map_eq_append_iff.mp hrest.symm
  obtain ⟨a, back, rfl, ha, hback⟩ := List.map_eq_cons_iff.mp hback
  obtain ⟨b, back, rfl, hb, hback⟩ := List.map_eq_cons_iff.mp hback
  obtain rfl := List.map_eq_nil_iff.mp hback
  have hstar : b = '*' := by
    split at hb
    · exact absurd hb (by decide)
    · exact hb
  subst hstar
  split at ha
  · rename_i hbackslash
    exact Or.inr ⟨front, by rw [hbackslash]⟩
  · exact Or.inl ⟨front, by rw [ha]⟩

/-- A directory whose last name has no backslash is read as a directory of that name. -/
theorem read_of_directoryName (hb : '\\' ∉ directoryName path) (hw : ¬ ['/', '*'] <:+ path) :
    (DirectoryPattern.read path).wildcard = false ∧
      baseName (DirectoryPattern.read path).directory = directoryName path := by
  have hlast : (Text.dropEnd (· = '/') path).getLast? ≠ some '\\' :=
    fun h => hb (getLast?_mem_baseName h (by decide))
  have hliteral : ¬ ['/', '*'] <:+ withSlashes path := by
    intro h
    rcases suffix_of_withSlashes h with h | ⟨front, rfl⟩
    · exact hw h
    · refine hb ?_
      rw [directoryName, DirectoryPattern.dropEnd_slash (by simp)]
      simp [baseName]
  rw [DirectoryPattern.read_literal hliteral]
  exact ⟨rfl, by rw [dropEnd_withSlashes hlast]; exact baseName_withSlashes hb⟩

/-- Names that are given to files have no backslashes. -/
theorem backslash_notMem_of_namespaceOf?
    (h : (DirectoryPattern.read path).namespaceOf? (withSlashes file) = some name) :
    '\\' ∉ name := by
  have hfile := backslash_notMem_withSlashes file
  cases hread : DirectoryPattern.read path with
  | mk directory wildcard =>
    rw [hread] at h
    cases wildcard with
    | true =>
      obtain ⟨-, rest, hpath⟩ := DirectoryPattern.namespaceOf?_wildcard_iff.mp h
      rw [hpath] at hfile
      intro hname
      exact hfile (by simp [hname])
    | false =>
      obtain ⟨rfl, rest, hpath⟩ := DirectoryPattern.namespaceOf?_literal_iff.mp h
      rw [hpath] at hfile
      intro hname
      exact hfile (by simp [mem_of_mem_baseName hname])

/-- The name that a directory gives to files is its own unless its last name has a backslash. -/
theorem eq_directoryName_iff (hw : ¬ ['/', '*'] <:+ path)
    (h : (DirectoryPattern.read path).namespaceOf? (withSlashes file) = some name) :
    name = directoryName path ↔ '\\' ∉ directoryName path := by
  constructor
  · intro hname
    rw [← hname]
    exact backslash_notMem_of_namespaceOf? h
  · intro hb
    obtain ⟨hwildcard, hbase⟩ := read_of_directoryName hb hw
    cases hread : DirectoryPattern.read path with
    | mk directory wildcard =>
      rw [hread] at h hwildcard hbase
      subst hwildcard
      rw [← hbase]
      exact (DirectoryPattern.namespaceOf?_literal_iff.mp h).1

/-- No directory that is written for patterns is a wildcard. -/
theorem not_suffix_of_mem_expandAll (h : path ∈ expandAll listing patterns) :
    ¬ ['/', '*'] <:+ path := by
  rcases List.mem_append.mp h with h | h
  · obtain ⟨pattern, -, hpath⟩ := List.mem_flatMap.mp h
    rw [expand, List.mem_mergeSort, List.mem_map] at hpath
    obtain ⟨name, -, rfl⟩ := hpath
    rw [← List.cons_append, ← List.append_assoc]
    exact not_suffix_concat_slash _
  · obtain ⟨-, hliteral⟩ := List.mem_filter.mp h
    intro hsuffix
    rw [isExpandable_iff.mpr (Or.inr hsuffix)] at hliteral
    cases hliteral

/-- The listed names are those of the written directories. -/
theorem mem_names_iff (h : replacement? room listing rules = some (names, directories)) :
    name ∈ names ↔ name ≠ [] ∧ ∃ path ∈ directories, directoryName path = name := by
  obtain ⟨e, -, -, -, rfl⟩ := exists_of_replacement? h
  rw [List.mem_filter, List.mem_map, and_comm]
  simp

/-- A namespace is listed if the directory that gives it to a file has no backslash in its last
name. Otherwise it is listed only as the name of another directory. -/
theorem mem_names_iff_of_decides (h : replacement? room listing rules = some (names, directories))
    {before after : List Text} (hd : directories = before ++ path :: after) (hne : name ≠ [])
    (hname : (DirectoryPattern.read path).namespaceOf? (withSlashes file) = some name) :
    name ∈ names ↔
      '\\' ∉ directoryName path ∨ ∃ other ∈ before ++ after, directoryName other = name := by
  obtain ⟨e, -, hpaths, -, -⟩ := exists_of_replacement? h
  have hpath : path ∈ expandAll listing e.patterns := by
    rw [← hpaths, hd]
    simp
  rw [mem_names_iff h, ← eq_directoryName_iff (not_suffix_of_mem_expandAll hpath) hname, hd]
  simp only [List.mem_append, List.mem_cons]
  constructor
  · rintro ⟨-, other, hother, hsame⟩
    rcases hother with hother | rfl | hother
    · exact Or.inr ⟨other, Or.inl hother, hsame⟩
    · exact Or.inl hsame.symm
    · exact Or.inr ⟨other, Or.inr hother, hsame⟩
  · rintro (hown | ⟨other, hother, hsame⟩)
    · exact ⟨hne, path, Or.inr (Or.inl rfl), hown.symm⟩
    · exact ⟨hne, other, hother.imp id Or.inr, hsame⟩

/-- The namespace of a file is listed exactly if the directory that decides on it has no backslash
in its last name or another directory has the namespace for its name. So every namespace is listed
where no last name has a backslash. -/
theorem namespaceOf?_listed (h : replacement? room listing rules = some (names, directories)) :
    (∃ expanded, expandNamespaces room listing rules = .ok expanded ∧
      (∃ severity applicability, Entries.get? namespaceEnum expanded =
        some (.list [severity, applicability, .ofTexts names])) ∧
      Entries.get? namespaceAlignment expanded =
        some (entry .always (some (.ofTexts directories)))) ∧
      (∀ file name, name ≠ [] → (Resolver.ofPatterns directories).namespaceOf? file = some name →
        ∃ before path after, directories = before ++ path :: after ∧
          (DirectoryPattern.read path).namespaceOf? (withSlashes file) = some name ∧
          (∀ p ∈ before, (DirectoryPattern.read p).namespaceOf? (withSlashes file) = none) ∧
          (name ∈ names ↔ '\\' ∉ directoryName path ∨
            ∃ other ∈ before ++ after, directoryName other = name)) ∧
      ((∀ path ∈ directories, '\\' ∉ directoryName path) → ∀ file name, name ≠ [] →
        (Resolver.ofPatterns directories).namespaceOf? file = some name → name ∈ names) := by
  have hdecides : ∀ file name, (Resolver.ofPatterns directories).namespaceOf? file = some name →
      ∃ before path after, directories = before ++ path :: after ∧
        (DirectoryPattern.read path).namespaceOf? (withSlashes file) = some name ∧
        ∀ p ∈ before, (DirectoryPattern.read p).namespaceOf? (withSlashes file) = none := by
    intro file name hname
    rw [Resolver.namespaceOf?_ofPatterns] at hname
    exact List.findSome?_eq_some_iff.mp hname
  refine ⟨exists_expandNamespaces h, fun file name hne hname => ?_,
    fun hb file name hne hname => ?_⟩
  · obtain ⟨before, path, after, hd, hpath, hbefore⟩ := hdecides file name hname
    exact ⟨before, path, after, hd, hpath, hbefore, mem_names_iff_of_decides h hd hne hpath⟩
  · obtain ⟨before, path, after, hd, hpath, -⟩ := hdecides file name hname
    refine (mem_names_iff_of_decides h hd hne hpath).mpr (Or.inl (hb path ?_))
    rw [hd]
    simp

/-- The namespaces of a repository with an application and a library are listed. -/
theorem namespaceOf?_listed_application :
    ∃ names directories,
      replacement? 0 nestedListing (enumRules ["apps/*".toList, "libs/shared".toList]) =
        some (names, directories) ∧
      (∀ path ∈ directories, '\\' ∉ directoryName path) ∧
      (Resolver.ofPatterns directories).namespaceOf? "apps\\web\\index.ts".toList =
        some "web".toList ∧
      "web".toList ∈ names := by
  have h : replacement? 0 nestedListing (enumRules ["apps/*".toList, "libs/shared".toList]) =
      some (["web".toList, "shared".toList], ["apps/web/".toList, "libs/shared".toList]) := by
    decide +kernel
  have hb : ∀ path ∈ ["apps/web/".toList, "libs/shared".toList], '\\' ∉ directoryName path := by
    decide
  have hname : (Resolver.ofPatterns ["apps/web/".toList, "libs/shared".toList]).namespaceOf?
      "apps\\web\\index.ts".toList = some "web".toList := by decide
  exact ⟨_, _, h, hb, hname, (namespaceOf?_listed h).2.2 hb _ _ (by decide) hname⟩

/-- A directory that is declared with a backslash is listed under a name that no file has. -/
theorem namespaceOf?_listed_backslash :
    ∃ names directories,
      replacement? 0 (fun _ => []) (enumRules ["apps\\web".toList]) = some (names, directories) ∧
      (∃ expanded, expandNamespaces 0 (fun _ => []) (enumRules ["apps\\web".toList]) =
          .ok expanded ∧
        Entries.get? namespaceEnum expanded =
          some (.list [.int 2, .text "always".toList, .ofTexts names]) ∧
        Entries.get? namespaceAlignment expanded =
          some (entry .always (some (.ofTexts directories)))) ∧
      (Resolver.ofPatterns directories).namespaceOf? "apps/web/index.ts".toList =
        some "web".toList ∧
      "web".toList ∉ names := by
  have h : replacement? 0 (fun _ => []) (enumRules ["apps\\web".toList]) =
      some (["apps\\web".toList], ["apps\\web".toList]) := by decide +kernel
  exact ⟨_, _, h, ⟨_, by rfl, by rfl, by rfl⟩, by decide, by decide⟩

end Names

end Settings

end CommitStandard
