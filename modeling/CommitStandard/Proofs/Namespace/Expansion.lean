import Mathlib.Tactic
import CommitStandard.Proofs.Namespace.Patterns
import CommitStandard.Settings.Expansion

/-!
# Expanded patterns

Where the list of namespaces has patterns, a list of directories is written for the
rule about changed files (`exists_expandNamespaces`). The directories of a wildcard stand
for it as long as the directories on the way to a file are listed
(`findSome?_expand`). They come before all patterns without a wildcard, wherever the
wildcard was declared, so that a wildcard decides on every file that it applies to;
`namespaceOf?_expanded` says for which files this makes no difference.
-/
namespace CommitStandard

open FilePath

namespace Listing

variable {listing : Listing} {path directory name : Text}

/-- Whether the names in the listing are written without slashes of either kind. -/
def HasPlainNames (listing : Listing) : Prop :=
  ∀ directory, ∀ name ∈ listing directory, name ≠ [] ∧ '/' ∉ name ∧ '\\' ∉ name

/-- Whether each of the directories on the way down from a directory is listed in the one around
it. The last name on the way is that of a file. -/
def leadsDown (listing : Listing) (directory : Text) : List Text → Bool
  | [] => true
  | [_] => true
  | name :: next :: rest =>
    (listing directory).contains name &&
      leadsDown listing (directory ++ '/' :: name) (next :: rest)

/-- Whether the directories that a file lies in are listed. -/
def HasParents (listing : Listing) (path : Text) : Prop :=
  leadsDown listing ((Text.pieces '/' path).headD []) (Text.pieces '/' path).tail = true

instance (listing : Listing) (path : Text) : Decidable (listing.HasParents path) :=
  inferInstanceAs (Decidable (_ = true))

theorem mem_of_leadsDown {before after : List Text} (hafter : after ≠ [])
    (h : leadsDown listing directory (before ++ name :: after) = true) :
    name ∈ listing (Text.join ['/'] (directory :: before)) := by
  induction before generalizing directory with
  | nil =>
    obtain ⟨next, rest, rfl⟩ := List.exists_cons_of_ne_nil hafter
    simp only [List.nil_append, leadsDown, Bool.and_eq_true, List.contains_iff_mem] at h
    exact h.1
  | cons first before ih =>
    obtain ⟨next, rest, hrest⟩ := List.exists_cons_of_ne_nil
      (List.append_ne_nil_of_right_ne_nil before (List.cons_ne_nil name after))
    rw [List.cons_append, hrest] at h
    simp only [leadsDown, Bool.and_eq_true] at h
    have hmem := ih (hrest ▸ h.2)
    rw [Text.join_cons _ _ (List.cons_ne_nil first before)]
    cases before with
    | nil => simpa using hmem
    | cons second before =>
      rw [Text.join_cons _ _ (List.cons_ne_nil second before)] at hmem ⊢
      simpa using hmem

/-- Every directory of a file is listed in the one around it. -/
theorem HasParents.mem (h : listing.HasParents path) (hname : '/' ∉ name) {rest : Text}
    (hpath : path = directory ++ '/' :: (name ++ '/' :: rest)) : name ∈ listing directory := by
  obtain ⟨top, below, hpieces⟩ :=
    List.exists_cons_of_ne_nil (Text.pieces_ne_nil '/' directory)
  have hjoin : Text.join ['/'] (top :: below) = directory := by
    rw [← hpieces, Text.join_pieces]
  rw [HasParents, hpath, Text.pieces_append_cons, Text.pieces_append_cons,
    Text.pieces_eq_singleton hname, hpieces] at h
  rw [← hjoin]
  exact mem_of_leadsDown (Text.pieces_ne_nil '/' rest) (by simpa using h)

end Listing

namespace Settings

/-- The names and the directories that the patterns in the list of namespaces are replaced by, if
there is a name. -/
def replacement? (room : Nat) (listing : Listing) (rules : Entries) :
    Option (List Text × List Text) :=
  match namespaceEntry? room rules with
  | .ok (some e) =>
    let directories := expandAll listing e.patterns
    let names := (directories.map directoryName).filter fun n => !n.isEmpty
    if names.isEmpty then none else some (names, directories)
  | _ => none

section Replacement

variable {room : Nat} {listing : Listing} {rules : Entries} {names directories : List Text}

theorem exists_of_replacement? (h : replacement? room listing rules = some (names, directories)) :
    ∃ e, namespaceEntry? room rules = .ok (some e) ∧
      directories = expandAll listing e.patterns ∧ names ≠ [] ∧
      names = (directories.map directoryName).filter fun n => !n.isEmpty := by
  unfold replacement? at h
  split at h
  · rename_i e he
    refine ⟨e, he, ?_⟩
    dsimp only at h
    split at h
    · cases h
    · rename_i hsome
      obtain ⟨rfl, rfl⟩ := Prod.mk.inj (Option.some.inj h)
      exact ⟨rfl, by simpa using hsome, rfl⟩
  · cases h

/-- The replacement is written into the list of namespaces and into the rule about changed
files. -/
theorem exists_expandNamespaces (h : replacement? room listing rules = some (names, directories)) :
    ∃ expanded, expandNamespaces room listing rules = .ok expanded ∧
      (∃ severity applicability, Entries.get? namespaceEnum expanded =
        some (.list [severity, applicability, .ofTexts names])) ∧
      Entries.get? namespaceAlignment expanded =
        some (entry .always (some (.ofTexts directories))) := by
  obtain ⟨e, he, rfl, hsome, rfl⟩ := exists_of_replacement? h
  have hkeys : namespaceEnum ≠ namespaceAlignment := by decide
  refine ⟨e.expand listing rules, by rw [expandNamespaces, he]; rfl, ?_⟩
  unfold NamespaceEntry.expand
  dsimp only
  rw [if_neg (by simpa using hsome)]
  refine ⟨⟨e.severity, e.applicability, ?_⟩, ?_⟩
  · rw [Entries.get?_put, if_neg hkeys, Entries.get?_put, if_pos rfl]
  · rw [Entries.get?_put, if_pos rfl]

end Replacement

/-- A directory in plain spelling: without backslashes and without a slash at its end. -/
def IsPlainDirectory (directory : Text) : Prop :=
  '\\' ∉ directory ∧ directory.getLast? ≠ some '/'

instance (directory : Text) : Decidable (IsPlainDirectory directory) :=
  inferInstanceAs (Decidable (_ ∧ _))

/-- A pattern in plain spelling: a directory, or a wildcard for those inside it. -/
inductive IsPlainPattern : Text → Prop
  | wildcard {directory : Text} (h : IsPlainDirectory directory) :
    IsPlainPattern (directory ++ ['/', '*'])
  | literal {directory : Text} (h : IsPlainDirectory directory)
    (hlast : ¬ ['/', '*'] <:+ directory) : IsPlainPattern directory

section Expanding

variable {listing : Listing} {directory pattern path name : Text} {patterns : List Text}

theorem isExpandable_iff :
    isExpandable pattern = true ↔ ['/'] <:+ pattern ∨ ['/', '*'] <:+ pattern := by
  rw [isExpandable, Bool.or_eq_true, List.isSuffixOf_iff_suffix, List.isSuffixOf_iff_suffix]

theorem IsPlainDirectory.isExpandable_eq_false (h : IsPlainDirectory directory)
    (hlast : ¬ ['/', '*'] <:+ directory) : isExpandable directory = false := by
  rw [← Bool.not_eq_true, isExpandable_iff]
  rintro (⟨rest, rfl⟩ | hsuffix)
  · exact h.2 (by simp)
  · exact hlast hsuffix

theorem baseOf_wildcard (directory : Text) : baseOf (directory ++ ['/', '*']) = directory := by
  simp [baseOf]

theorem not_suffix_concat_slash (path : Text) : ¬ ['/', '*'] <:+ path ++ ['/'] := by
  rintro ⟨rest, hrest⟩
  have hends := congrArg List.getLast? hrest
  rw [List.append_cons, List.getLast?_concat, List.getLast?_concat] at hends
  exact absurd hends (by decide)

/-- A listed directory is read as a directory of its name. -/
theorem read_listed (hd : IsPlainDirectory directory) (hne : name ≠ []) (hslash : '/' ∉ name)
    (hb : '\\' ∉ name) :
    DirectoryPattern.read (directory ++ '/' :: (name ++ ['/'])) =
      ⟨directory ++ '/' :: name, false⟩ := by
  have hslashes : withSlashes (directory ++ '/' :: (name ++ ['/'])) =
      (directory ++ '/' :: name) ++ ['/'] := by
    rw [withSlashes_eq_self (by simp [hd.1, hb])]
    simp
  have hlast : (directory ++ '/' :: name).getLast? ≠ some '/' := by
    intro h
    rw [List.getLast?_append_of_ne_nil _ (List.cons_ne_nil '/' name),
      List.getLast?_cons_of_ne_nil hne] at h
    exact hslash (List.mem_of_getLast? h)
  have hliteral : ¬ ['/', '*'] <:+ withSlashes (directory ++ '/' :: (name ++ ['/'])) := by
    rw [hslashes]
    exact not_suffix_concat_slash _
  rw [DirectoryPattern.read_literal hliteral, hslashes, DirectoryPattern.dropEnd_concat_slash,
    DirectoryPattern.dropEnd_slash hlast]

/-- The directories that a wildcard stands for give a file its next directory, as the wildcard
does. -/
theorem findSome?_expand (hl : listing.HasPlainNames) (hd : IsPlainDirectory directory)
    (hp : listing.HasParents path) :
    ((expand listing (directory ++ ['/', '*'])).findSome? fun p =>
      (DirectoryPattern.read p).namespaceOf? path) =
      (DirectoryPattern.read (directory ++ ['/', '*'])).namespaceOf? path := by
  have hgives : ∀ p ∈ expand listing (directory ++ ['/', '*']), ∀ n,
      (DirectoryPattern.read p).namespaceOf? path = some n →
        '/' ∉ n ∧ ∃ rest, path = directory ++ '/' :: (n ++ '/' :: rest) := by
    intro p hmem n hn
    rw [expand, baseOf_wildcard, List.mem_mergeSort, List.mem_map] at hmem
    obtain ⟨name, hname, rfl⟩ := hmem
    obtain ⟨hne, hslash, hb⟩ := hl directory name hname
    rw [read_listed hd hne hslash hb, DirectoryPattern.namespaceOf?_literal_iff, baseName_append,
      baseName_eq_self hslash] at hn
    obtain ⟨rfl, rest, rfl⟩ := hn
    exact ⟨hslash, rest, by simp⟩
  rw [DirectoryPattern.read_wildcard hd.1 hd.2]
  cases hw : (⟨directory, true⟩ : DirectoryPattern).namespaceOf? path with
  | none =>
    rw [List.findSome?_eq_none_iff]
    intro p hmem
    rw [Option.eq_none_iff_forall_ne_some]
    intro n hn
    rw [DirectoryPattern.namespaceOf?_wildcard_iff.mpr (hgives p hmem n hn)] at hw
    cases hw
  | some n =>
    obtain ⟨hslash, rest, hpath⟩ := DirectoryPattern.namespaceOf?_wildcard_iff.mp hw
    have hlisted : n ∈ listing directory := hp.mem hslash hpath
    obtain ⟨hne, -, hb⟩ := hl directory n hlisted
    have hmem : directory ++ '/' :: (n ++ ['/']) ∈ expand listing (directory ++ ['/', '*']) := by
      rw [expand, baseOf_wildcard, List.mem_mergeSort]
      exact List.mem_map_of_mem hlisted
    have hfound : (DirectoryPattern.read (directory ++ '/' :: (n ++ ['/']))).namespaceOf? path =
        some n := by
      rw [read_listed hd hne hslash hb, DirectoryPattern.namespaceOf?_literal_iff, baseName_append,
        baseName_eq_self hslash]
      exact ⟨rfl, rest, by rw [hpath]; simp⟩
    -- No other listed directory lies on the way to the file.
    refine findSome?_eq_some_of_mem hmem hfound fun p hp' m hm => ?_
    obtain ⟨hslash', rest', hpath'⟩ := hgives p hp' m hm
    rw [hpath] at hpath'
    have hbelow := (List.cons.inj (List.append_cancel_left hpath')).2
    exact (Text.eq_of_append_cons hslash hslash' hbelow).1.symm

end Expanding

section Resolution

variable {room : Nat} {listing : Listing} {rules : Entries} {e : NamespaceEntry}
  {patterns names directories : List Text} {file : Text}

/-- The directories that patterns stand for resolve a file as the wildcards do, and as the other
patterns do where no wildcard applies. -/
theorem namespaceOf?_expandAll (hl : listing.HasPlainNames)
    (hp : ∀ p ∈ patterns, IsPlainPattern p) (hf : listing.HasParents (withSlashes file)) :
    (Resolver.ofPatterns (expandAll listing patterns)).namespaceOf? file =
      ((Resolver.ofPatterns (patterns.filter isExpandable)).namespaceOf? file).or
        ((Resolver.ofPatterns (patterns.filter fun p => !isExpandable p)).namespaceOf? file) := by
  simp only [Resolver.namespaceOf?_ofPatterns]
  rw [expandAll, List.findSome?_append, findSome?_flatMap]
  intro p hmem
  obtain ⟨hmem, hexpandable⟩ := List.mem_filter.mp hmem
  cases hp p hmem with
  | wildcard hd => exact findSome?_expand hl hd hf
  | literal hd hlast =>
    rw [hd.isExpandable_eq_false hlast] at hexpandable
    cases hexpandable

/-- Wildcards that are declared first stay where they are. -/
theorem filter_isExpandable_append
    (h : patterns.Pairwise fun p q => isExpandable q = true → isExpandable p = true) :
    patterns.filter isExpandable ++ (patterns.filter fun p => !isExpandable p) = patterns := by
  induction h with
  | nil => rfl
  | @cons p patterns hfirst _ ih =>
    by_cases hp : isExpandable p = true
    · rw [List.filter_cons_of_pos hp, List.filter_cons_of_neg (by simp [hp]), List.cons_append, ih]
    · have hnone : patterns.filter isExpandable = [] :=
        List.filter_eq_nil_iff.mpr fun q hq hexpandable => hp (hfirst q hq hexpandable)
      rw [List.filter_cons_of_neg hp, List.filter_cons_of_pos (by simp [hp]), hnone,
        List.nil_append]
      rw [hnone, List.nil_append] at ih
      rw [ih]

/-- The directories written for patterns give a file the namespace that the patterns give it
exactly if the name that the wildcards alone give it, if there is one, is the name that all
patterns give it. This is so for every file if all wildcards are declared first. -/
theorem namespaceOf?_expanded (hl : listing.HasPlainNames)
    (hrules : namespaceEntry? room rules = .ok (some e))
    (hp : ∀ p ∈ e.patterns, IsPlainPattern p)
    (hw : replacement? room listing rules = some (names, directories))
    (hf : listing.HasParents (withSlashes file)) :
    (∃ expanded, expandNamespaces room listing rules = .ok expanded ∧
      Entries.get? namespaceAlignment expanded =
        some (entry .always (some (.ofTexts directories)))) ∧
      ((Resolver.ofPatterns e.patterns).namespaceOf? file =
          (Resolver.ofPatterns directories).namespaceOf? file ↔
        ∀ n, (Resolver.ofPatterns (e.patterns.filter isExpandable)).namespaceOf? file = some n →
          (Resolver.ofPatterns e.patterns).namespaceOf? file = some n) ∧
      ((e.patterns.Pairwise fun p q => isExpandable q = true → isExpandable p = true) →
        (Resolver.ofPatterns e.patterns).namespaceOf? file =
          (Resolver.ofPatterns directories).namespaceOf? file) := by
  obtain ⟨e', hrules', rfl, -, -⟩ := exists_of_replacement? hw
  obtain rfl := Option.some.inj (Except.ok.inj (hrules.symm.trans hrules'))
  obtain ⟨expanded, hexpanded, -, hwritten⟩ := exists_expandNamespaces hw
  have hresolved := namespaceOf?_expandAll hl hp hf
  refine ⟨⟨expanded, hexpanded, hwritten⟩, ?_, fun hfirst => ?_⟩
  · rw [hresolved]
    cases hwild : (Resolver.ofPatterns (e.patterns.filter isExpandable)).namespaceOf? file with
    | none =>
      rw [Option.none_or]
      refine iff_of_true ?_ fun n hn => by cases hn
      rw [Resolver.namespaceOf?_ofPatterns] at hwild ⊢
      rw [Resolver.namespaceOf?_ofPatterns, findSome?_filter_not hwild]
    | some n =>
      rw [Option.some_or]
      simp
  · rw [hresolved, Resolver.namespaceOf?_ofPatterns, Resolver.namespaceOf?_ofPatterns,
      Resolver.namespaceOf?_ofPatterns, ← List.findSome?_append, filter_isExpandable_append hfirst]

end Resolution

/-- A repository with one application, which has one directory in it. -/
def nestedListing : Listing := fun directory =>
  if directory = "apps".toList then ["web".toList]
  else if directory = "apps/web".toList then ["ui".toList] else []

theorem hasPlainNames_nestedListing : nestedListing.HasPlainNames := by
  intro directory name h
  unfold nestedListing at h
  split at h
  · obtain rfl := List.mem_singleton.mp h
    decide
  · split at h
    · obtain rfl := List.mem_singleton.mp h
      decide
    · cases h

/-- Rules that list namespaces by patterns, and nothing else. -/
def enumRules (patterns : List Text) : Entries :=
  [(namespaceEnum, .list [.int 2, .text "always".toList, .ofTexts patterns])]

theorem isPlainPattern_apps : IsPlainPattern "apps/*".toList :=
  show IsPlainPattern ("apps".toList ++ ['/', '*']) from .wildcard (by decide)

/-- A wildcard behind a pattern that does not apply. -/
theorem namespaceOf?_expanded_onlyApplication :
    let patterns := ["libs/shared".toList, "apps/*".toList]
    let file := "apps/web/ui/index.ts".toList
    nestedListing.HasPlainNames ∧ (∀ p ∈ patterns, IsPlainPattern p) ∧
      nestedListing.HasParents (withSlashes file) ∧
      ∃ names directories,
        replacement? 0 nestedListing (enumRules patterns) = some (names, directories) ∧
        (∃ expanded, expandNamespaces 0 nestedListing (enumRules patterns) = .ok expanded ∧
          Entries.get? namespaceAlignment expanded =
            some (entry .always (some (.ofTexts directories)))) ∧
        (Resolver.ofPatterns patterns).namespaceOf? file = some "web".toList ∧
        (Resolver.ofPatterns patterns).namespaceOf? file =
          (Resolver.ofPatterns directories).namespaceOf? file := by
  intro patterns file
  have hp : ∀ p ∈ patterns, IsPlainPattern p := by
    simp only [patterns, List.forall_mem_cons]
    exact ⟨.literal (by decide) (by decide), isPlainPattern_apps, by simp⟩
  have hf : nestedListing.HasParents (withSlashes file) := by decide
  have hname : (Resolver.ofPatterns patterns).namespaceOf? file = some "web".toList := by decide
  have hw : replacement? 0 nestedListing (enumRules patterns) =
      some (["web".toList, "shared".toList], ["apps/web/".toList, "libs/shared".toList]) := by
    decide +kernel
  have hrules : namespaceEntry? 0 (enumRules patterns) =
      .ok (some ⟨.int 2, .text "always".toList, patterns⟩) := rfl
  obtain ⟨hwritten, hiff, -⟩ :=
    namespaceOf?_expanded hasPlainNames_nestedListing hrules hp hw hf
  refine ⟨hasPlainNames_nestedListing, hp, hf, _, _, hw, hwritten, hname, hiff.mpr fun n hn => ?_⟩
  show (Resolver.ofPatterns patterns).namespaceOf? file = some n
  rw [hname, ← hn]
  decide

/-- A wildcard takes the files of a directory that was declared before it. -/
theorem namespaceOf?_expanded_nestedPattern :
    let patterns := ["apps/web/ui".toList, "apps/*".toList]
    let directories := ["apps/web/".toList, "apps/web/ui".toList]
    let file := "apps/web/ui/index.ts".toList
    nestedListing.HasPlainNames ∧ (∀ p ∈ patterns, IsPlainPattern p) ∧
      nestedListing.HasParents (withSlashes file) ∧
      replacement? 0 nestedListing (enumRules patterns) =
        some (["web".toList, "ui".toList], directories) ∧
      (∃ expanded, expandNamespaces 0 nestedListing (enumRules patterns) = .ok expanded ∧
        Entries.get? namespaceAlignment expanded =
          some (entry .always (some (.ofTexts directories)))) ∧
      (Resolver.ofPatterns patterns).namespaceOf? file = some "ui".toList ∧
      (Resolver.ofPatterns directories).namespaceOf? file = some "web".toList := by
  intro patterns directories file
  have hp : ∀ p ∈ patterns, IsPlainPattern p := by
    simp only [patterns, List.forall_mem_cons]
    exact ⟨.literal (by decide) (by decide), isPlainPattern_apps, by simp⟩
  have hw : replacement? 0 nestedListing (enumRules patterns) =
      some (["web".toList, "ui".toList], directories) := by decide +kernel
  obtain ⟨expanded, hexpanded, -, hwritten⟩ := exists_expandNamespaces hw
  exact ⟨hasPlainNames_nestedListing, hp, by decide, hw, ⟨expanded, hexpanded, hwritten⟩, by decide,
    by decide⟩

end Settings

end CommitStandard
