import Mathlib.Tactic
import CommitStandard.Proofs.Engine.Dependability
import CommitStandard.Proofs.Text.Trimming

/-!
# Repairing the presence of values

A rule that demands values looks for them among the values of a part without the blanks around
those, but it looks for them as they are configured. A configured text with blanks around it is
therefore never found (`Rule.notMem_map_strip`). A repair adds what is missing, and what is
missing afterwards is just what can never be found (`Rule.missing_append_missing`). So a repair
has done what it says, and another one changes nothing, exactly if no text is demanded with blanks
around it (`Rule.fix_fix_presence`).
-/
namespace CommitStandard

namespace Rule

variable {c : Coercions} {r : Rule} {t : Text} {texts values : List Text}
  {files : Option ChangedFiles} {id : Text} {entry : Entry}

/-- The texts with blanks around them. -/
def padded (texts : List Text) : List Text := texts.filter fun t => Text.strip t ≠ t

theorem padded_eq_nil_iff : padded texts = [] ↔ ∀ t ∈ texts, Text.strip t = t := by
  simp [padded]

theorem notMem_map_strip (ht : Text.strip t ≠ t) (values : List Text) :
    t ∉ values.map Text.strip := by
  rintro hmem
  obtain ⟨s, -, rfl⟩ := List.mem_map.mp hmem
  exact ht (Text.strip_strip s)

theorem missing_eq_filter (texts values : List Text) :
    missing texts values = texts.filter fun t => t ∉ values.map Text.strip :=
  List.filter_congr fun t _ => by rw [List.contains_eq_mem, decide_not]

/-- Of the demanded texts only those with blanks around them are missing after a repair. -/
theorem missing_append_missing (texts values : List Text) :
    missing texts (values ++ missing texts values) = padded texts := by
  rw [missing_eq_filter texts (values ++ _), padded]
  refine List.filter_congr fun t ht => decide_eq_decide.mpr ?_
  refine ⟨fun hmissing hstrip => hmissing ?_, fun hpad => notMem_map_strip hpad _⟩
  rw [List.map_append, List.mem_append]
  by_cases hpresent : t ∈ values.map Text.strip
  · exact Or.inl hpresent
  · refine Or.inr (List.mem_map.mpr ⟨t, ?_, hstrip⟩)
    rw [missing_eq_filter]
    exact List.mem_filter.mpr ⟨ht, decide_eq_true hpresent⟩

/-- A repair leaves no forbidden value. -/
theorem validate_filter_of_never (hc : r.constraint = .presence texts)
    (ha : r.applicability = .never) (values : List Text) (files : Option ChangedFiles) :
    r.validate (values.filter fun s => !texts.contains (Text.strip s)) files = .ok [] := by
  rw [validate_ban_eq_nil_iff hc ha]
  intro s hs
  simpa using (List.mem_filter.mp hs).2

theorem exists_presence (h : createRule? c id entry = some r) (hkind : r.kind = .presence) :
    ∃ texts, r.constraint = .presence texts := by
  obtain ⟨value, hvalue⟩ := exists_ofValue?_of_createRule? h
  rw [hkind] at hvalue
  obtain ⟨texts, -, hc⟩ := Option.map_eq_some_iff.mp hvalue
  exact ⟨texts, hc.symm⟩

/-- A repair by a rule that demands or forbids values keeps all values that it may. It leaves no
violation, and a second one changes nothing, exactly if the rule forbids or none of its texts has
blanks around it; else every further repair adds these texts again. -/
theorem fix_fix_presence (h : createRule? c id entry = some r) (hkind : r.kind = .presence)
    (values : List Text) (files : Option ChangedFiles) :
    ∃ texts repaired, r.constraint = .presence texts ∧
      r.fix values files = .ok ([], repaired) ∧
      (r.applicability = .always →
        repaired = values ++ texts.filter (fun t => t ∉ values.map Text.strip) ∧
        r.fix repaired files = .ok ([], repaired ++ padded texts)) ∧
      (r.applicability = .never → repaired = values.filter fun s => Text.strip s ∉ texts) ∧
      (r.validate repaired files = .ok [] ↔
        r.applicability = .never ∨ ∀ t ∈ texts, Text.strip t = t) ∧
      (r.fix repaired files = .ok ([], repaired) ↔
        r.applicability = .never ∨ ∀ t ∈ texts, Text.strip t = t) := by
  obtain ⟨texts, hc⟩ := exists_presence h hkind
  cases ha : r.applicability with
  | always =>
    have hfix : ∀ values, r.fix values files = .ok ([], values ++ missing texts values) := by
      intro values
      rw [fix, hc, ha]
    refine ⟨texts, values ++ missing texts values, hc, hfix values, fun _ => ⟨?_, ?_⟩,
      fun hno => absurd hno (by decide), ?_, ?_⟩
    · rw [missing_eq_filter]
    · rw [hfix, missing_append_missing]
    · rw [validate, hc, ha, report_eq_nil_iff, ← padded_eq_nil_iff]
      simp [missing_append_missing]
    · rw [hfix, missing_append_missing, ← padded_eq_nil_iff]
      simp
  | never =>
    refine ⟨texts, _, hc, by rw [fix, hc, ha], fun hno => absurd hno (by decide), fun _ => ?_,
      iff_of_true (validate_filter_of_never hc ha values files) (Or.inl rfl),
      iff_of_true ?_ (Or.inl rfl)⟩
    · simp
    · rw [fix, hc, ha]
      simp [List.filter_filter]

/-- An entry that demands two footers. -/
def twoTrailers : Entry :=
  .given (.list [.int 2, .text "always".toList,
    .list [.text "Fixes".toList, .text "Signed-off-by".toList]])

theorem fix_fix_presence_twoTrailers :
    ∃ r, createRule? .lax "trailer-exists".toList twoTrailers = some r ∧ r.kind = .presence ∧
      ∃ repaired, r.fix [" Fixes ".toList, "Ack".toList] none = .ok ([], repaired) ∧
        r.validate repaired none = .ok [] ∧ r.fix repaired none = .ok ([], repaired) := by
  have hcreated : createRule? .lax "trailer-exists".toList twoTrailers =
      some ⟨"trailer".toList, .error, .always,
        .presence ["Fixes".toList, "Signed-off-by".toList]⟩ := by rfl
  obtain ⟨texts, repaired, hc, hfix, -, -, hvalidate, hagain⟩ :=
    fix_fix_presence hcreated rfl [" Fixes ".toList, "Ack".toList] none
  cases hc
  exact ⟨_, hcreated, rfl, repaired, hfix, hvalidate.mpr (Or.inr (by decide)),
    hagain.mpr (Or.inr (by decide))⟩

/-- An entry that demands a text with a blank before it. -/
def paddedTrailer : Entry :=
  .given (.list [.int 2, .text "always".toList, .list [.text " a".toList]])

/-- The text is added by every repair, and it is missing afterwards. -/
theorem fix_presence_paddedTrailer :
    ∃ r, createRule? .lax "trailer-exists".toList paddedTrailer = some r ∧ r.kind = .presence ∧
      r.fix [] none = .ok ([], [" a".toList]) ∧
      (∃ sentence, r.describe = .ok sentence ∧
        r.validate [" a".toList] none = .ok [(0, sentence)]) ∧
      r.fix [" a".toList] none = .ok ([], [" a".toList, " a".toList]) := by
  have hcreated : createRule? .lax "trailer-exists".toList paddedTrailer =
      some ⟨"trailer".toList, .error, .always, .presence [" a".toList]⟩ := by rfl
  exact ⟨_, hcreated, rfl, by rfl, ⟨_, by rfl, by rfl⟩, by rfl⟩

end Rule

end CommitStandard
