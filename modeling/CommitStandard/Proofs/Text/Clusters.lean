import Mathlib.Data.List.SplitBy
import Mathlib.Tactic
import CommitStandard.Text.Cut

/-!
# Clusters of characters

Marks and joiners belong to the character before them, and what follows a joiner belongs to it, so
that a text falls into clusters (`clusters`). The search for a place to cut goes back to the last
place that no cluster reaches over (`isGreatest_safeCut`). A cut to a width therefore keeps the
first clusters of a text, each as a whole and as many as there is room for (`truncate_clusters`).
-/
namespace CommitStandard.Text

/-- Whether a character belongs to the one before it. -/
def joins (a b : Char) : Bool := continuesCluster b || a == zeroWidthJoiner

/-- The longest runs of characters that belong to the ones before them. -/
def clusters (s : Text) : List Text := s.splitBy joins

/-- Whether a cluster ends before the character at `k`, which is in the text: it is neither a mark
nor a joiner, and it follows no joiner. -/
def EndsCluster (s : Text) (k : Nat) : Prop :=
  k = 0 ∨ ∃ h : k < s.length,
    isMark s[k] = false ∧ s[k] ≠ zeroWidthJoiner ∧ s[k - 1] ≠ zeroWidthJoiner

variable {s t : Text} {k width : Nat}

/-- Before the end of a text the test of a place reads characters that are there. -/
theorem isSafeCut_iff (h : k < s.length) : isSafeCut s k = true ↔ EndsCluster s k := by
  have hbefore : k - 1 < s.length := by omega
  rw [isSafeCut, List.getElem?_eq_getElem h, List.getElem?_eq_getElem hbefore]
  simp [EndsCluster, continuesCluster, h, and_assoc]

/-- The search goes back to the last safe place. -/
theorem le_safeCut (s : Text) {j : Nat} (hj : j ≤ k) (hsafe : isSafeCut s j = true) :
    j ≤ safeCut s k := by
  induction k with
  | zero => exact hj
  | succ k ih =>
    unfold safeCut
    split
    · exact hj
    · rename_i hno
      have hne : j ≠ k + 1 := fun he => hno (he ▸ hsafe)
      exact ih (by omega)

theorem isGreatest_safeCut (h : width < s.length) :
    IsGreatest {k | k ≤ width ∧ EndsCluster s k} (safeCut s width) := by
  have hle := safeCut_le s width
  refine ⟨⟨hle, (isSafeCut_iff (by omega)).mp (isSafeCut_safeCut s width)⟩, ?_⟩
  rintro k ⟨hk, hends⟩
  exact le_safeCut s hk ((isSafeCut_iff (by omega)).mpr hends)

/-- Between two texts a cluster ends unless the second begins with a character that belongs to the
last one of the first. -/
theorem endsCluster_append (hs : s ≠ []) (ht : t ≠ []) :
    EndsCluster (s ++ t) s.length ↔ joins (s.getLast hs) (t.head ht) = false := by
  have hlength := List.length_pos_iff.mpr hs
  have hroom := List.length_pos_iff.mpr ht
  have hend : s.length < (s ++ t).length := by rw [List.length_append]; omega
  have hlast : (s ++ t)[s.length - 1] = s.getLast hs := by
    rw [List.getElem_append_left (by omega), List.getLast_eq_getElem]
  have hhead : (s ++ t)[s.length] = t.head ht := by
    rw [List.getElem_append_right le_rfl, List.head_eq_getElem]
    simp
  rw [EndsCluster, or_iff_right hlength.ne', exists_prop_of_true hend, hlast, hhead]
  simp [joins, continuesCluster, and_assoc]

/-- A cut where a cluster ends parts the clusters. -/
theorem clusters_append (h : EndsCluster (s ++ t) s.length) :
    clusters (s ++ t) = clusters s ++ clusters t := by
  by_cases hs : s = []
  · rw [hs]
    rfl
  by_cases ht : t = []
  · rw [ht, List.append_nil]
    exact (List.append_nil _).symm
  rw [endsCluster_append hs ht] at h
  refine List.splitBy_append fun c hc d hd => ?_
  rwa [List.getLast_of_mem_getLast? hc, List.head_of_mem_head? hd] at h

/-- A cluster ends between the first clusters of a text and the others. -/
theorem endsCluster_of_clusters {kept rest : List Text} (h : clusters s = kept ++ rest)
    (hrest : rest ≠ []) : EndsCluster s kept.flatten.length := by
  rcases List.eq_nil_or_concat' kept with rfl | ⟨kept, c, rfl⟩
  · exact Or.inl rfl
  obtain ⟨d, rest, rfl⟩ := List.exists_cons_of_ne_nil hrest
  have hs : s = (kept ++ [c]).flatten ++ (d :: rest).flatten := by
    rw [← List.flatten_append, ← h, clusters, List.flatten_splitBy]
  have hchain := List.isChain_getLast_head_splitBy joins s
  rw [← clusters, h] at hchain
  obtain ⟨hc, hd, hparted⟩ := List.isChain_append.mp hchain |>.2.2 c (by simp) d (by simp)
  have hkept : (kept ++ [c]).flatten ≠ [] := by simpa using fun _ => hc
  have hafter : (d :: rest).flatten ≠ [] := by simpa using fun hnil => absurd hnil hd
  rw [hs, endsCluster_append hkept hafter]
  simpa [List.getLast_append_of_ne_nil, List.head_append_of_ne_nil, hc, hd] using hparted

/-- There is no room for one more cluster before the last place where a cluster ends. -/
theorem lt_of_isGreatest {kept rest : List Text} {cluster : Text}
    (hlong : width < s.length) (h : clusters s = kept ++ cluster :: rest)
    (hgreatest : IsGreatest {k | k ≤ width ∧ EndsCluster s k} kept.flatten.length) :
    width < kept.flatten.length + cluster.length := by
  have hnext : (kept ++ [cluster]).flatten.length = kept.flatten.length + cluster.length := by
    simp
  have hall : clusters s = (kept ++ [cluster]) ++ rest := by
    rw [h, List.append_assoc, List.singleton_append]
  by_cases hrest : rest = []
  · have hs : s = (kept ++ [cluster]).flatten := by
      rw [hrest, List.append_nil] at hall
      rw [← hall, clusters, List.flatten_splitBy]
    rwa [← hnext, ← hs]
  · by_contra hroom
    have hends := endsCluster_of_clusters hall hrest
    rw [hnext] at hends
    have hlast := hgreatest.2 ⟨not_lt.mp hroom, hends⟩
    have hmem : cluster ∈ s.splitBy joins := by
      rw [← clusters, h]
      simp
    have hpos := List.length_pos_iff.mpr (List.ne_nil_of_mem_splitBy hmem)
    omega

theorem truncate_isPrefix (s : Text) (width : Nat) : truncate s width <+: s := by
  have htruncate : truncate s width = cutTo width s := rfl
  rw [htruncate, cutTo]
  split
  · exact List.prefix_refl s
  · exact List.take_prefix _ s

/-- A cut to a width keeps the beginning of a text up to the last place in the width where a
cluster ends, and a text that fits as a whole. Cutting again changes nothing. What is kept are the
first clusters, and there is no room for the next one. -/
theorem truncate_clusters (s : Text) (width : Nat) :
    truncate s width <+: s ∧
      (s.length ≤ width → truncate s width = s) ∧
      (width < s.length →
        IsGreatest {k | k ≤ width ∧ EndsCluster s k} (truncate s width).length) ∧
      truncate (truncate s width) width = truncate s width ∧
      ∃ kept rest, clusters s = kept ++ rest ∧ truncate s width = kept.flatten ∧
        ∀ cluster ∈ rest.head?, width < kept.flatten.length + cluster.length := by
  have hfits : ∀ {t : Text}, t.length ≤ width → truncate t width = t := fun ht => if_pos ht
  have hbefore := truncate_isPrefix s width
  have hagain : truncate (truncate s width) width = truncate s width :=
    hfits (length_cutTo_le width s)
  rcases Nat.lt_or_ge width s.length with hlong | hshort
  · have hcut : truncate s width = s.take (safeCut s width) := if_neg (by omega)
    have hgreatest := isGreatest_safeCut hlong
    have hlength : (s.take (safeCut s width)).length = safeCut s width := by
      have hle := safeCut_le s width
      rw [List.length_take]
      omega
    have hparts : clusters s =
        clusters (s.take (safeCut s width)) ++ clusters (s.drop (safeCut s width)) := by
      rw [← clusters_append, List.take_append_drop]
      rw [hlength, List.take_append_drop]
      exact hgreatest.1.2
    have hkept : (clusters (s.take (safeCut s width))).flatten = s.take (safeCut s width) :=
      List.flatten_splitBy joins _
    refine ⟨hbefore, fun hle => absurd hle (by omega), fun _ => ?_, hagain, _, _, hparts, ?_, ?_⟩
    · rwa [hcut, hlength]
    · rw [hcut, hkept]
    · intro cluster hcluster
      obtain ⟨rest, hrest⟩ := List.head?_eq_some_iff.mp hcluster
      rw [hrest] at hparts
      refine lt_of_isGreatest hlong hparts ?_
      rwa [hkept, hlength]
  · refine ⟨hbefore, fun _ => hfits hshort, fun hlong => absurd hlong (by omega), hagain,
      clusters s, [], (List.append_nil _).symm, ?_, by simp⟩
    rw [hfits hshort]
    exact (List.flatten_splitBy joins s).symm

/-- A letter is not parted from its accent. -/
example : truncate "Cafe\u0301 open".toList 4 = "Caf".toList := by decide

end CommitStandard.Text
