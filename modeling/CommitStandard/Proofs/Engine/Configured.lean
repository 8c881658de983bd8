import Mathlib.Tactic
import CommitStandard.Engine.Basic
import CommitStandard.Proofs.Rule.Wording
import CommitStandard.Proofs.Text.Lines

/-!
# Configured engines

Entries build rules of the parts that their identifiers name, so that the rules of
a part are found by their identifiers (`forPart_ofEntries`). A configured rule is
never disabled, and its check is a built-in one (`isCreated_of_createRule?`).
-/
namespace CommitStandard

theorem Part.name_injective : Function.Injective Part.name := by
  intro p q h
  revert h
  cases p <;> cases q <;> decide

theorem Part.hyphen_notMem_name (p : Part) : '-' ∉ p.name := by cases p <;> decide

theorem Part.ofName?_name (p : Part) : Part.ofName? p.name = some p := by cases p <;> rfl

theorem Part.name_of_ofName? {name : Text} {p : Part} (h : Part.ofName? name = some p) :
    p.name = name := by
  simpa using List.find?_some h

theorem Kind.name_of_ofName? {name : Text} {k : Kind} (h : Kind.ofName? name = some k) :
    k.name = name := by
  simpa using List.find?_some h

/-- An identifier is the name of its part and the name of its kind, joined by a hyphen. -/
theorem eq_of_splitRuleId? {id : Text} {part : Part} {kind : Kind}
    (h : splitRuleId? id = some (part, kind)) : id = part.name ++ '-' :: kind.name := by
  obtain ⟨p, hp, h⟩ := Option.bind_eq_some_iff.mp h
  obtain ⟨k, hk, h⟩ := Option.bind_eq_some_iff.mp h
  obtain ⟨rfl, rfl⟩ := Prod.mk.inj (Option.some.inj h)
  have hsplit := List.takeWhile_append_dropWhile (p := fun c => decide (c ≠ '-')) (l := id)
  rw [Part.name_of_ofName? hp]
  cases hd : id.dropWhile fun c => decide (c ≠ '-') with
  | nil =>
    have hnone : Kind.ofName? [] = none := by decide
    rw [hd, List.drop_nil, hnone] at hk
    exact absurd hk (by simp)
  | cons c rest =>
    have hc : c = '-' := by
      have hhead := List.head?_dropWhile_not (fun c => decide (c ≠ '-')) id
      rw [hd] at hhead
      simpa using hhead
    rw [hd, List.drop_one, List.tail_cons] at hk
    rw [hd, hc] at hsplit
    rw [Kind.name_of_ofName? hk, hsplit]

section Created

variable {c : Coercions} {id : Text} {entry : Entry} {r : Rule}

/-- What a rule that an entry builds is about. -/
structure Rule.IsCreated (id : Text) (r : Rule) : Prop where
  part : ∃ part : Part, r.part = part.name ∧ ∃ rest, id = part.name ++ '-' :: rest
  severity : r.severity ≠ .disabled
  isBuiltIn : r.IsBuiltIn

theorem Constraint.ofValue?_ne_custom {kind : Kind} {value : Value} {c : Constraint}
    (h : Constraint.ofValue? kind value = some c) (check : CustomCheck) : c ≠ .custom check := by
  rintro rfl
  cases kind <;> simp [Constraint.ofValue?] at h

/-- A number of characters is not negative. -/
theorem Constraint.nonneg_of_count? {value : Value} {n : Int}
    (h : Constraint.count? value = some n) : 0 ≤ n := by
  unfold Constraint.count? at h
  split at h
  · split at h
    · cases h
    · have := Option.some.inj h
      omega
  · cases h

/-- An entry builds a rule of the part and the kind of its identifier, from a setting that does
not disable it. -/
theorem exists_of_createRule? (h : createRule? c id entry = some r) :
    ∃ (part : Part) (kind : Kind) (setting : Setting) (constraint : Constraint),
      id = part.name ++ '-' :: kind.name ∧ setting.severity ≠ .disabled ∧
      Constraint.ofValue? kind setting.value = some constraint ∧
      r = ⟨part.name, setting.severity, setting.applicability, constraint⟩ := by
  obtain ⟨⟨part, kind⟩, hid, h⟩ := Option.bind_eq_some_iff.mp h
  obtain ⟨setting, -, h⟩ := Option.bind_eq_some_iff.mp h
  split at h
  · exact absurd h (by simp)
  · rename_i hseverity
    obtain ⟨constraint, hconstraint, h⟩ := Option.bind_eq_some_iff.mp h
    exact ⟨part, kind, setting, constraint, eq_of_splitRuleId? hid, hseverity, hconstraint,
      (Option.some.inj h).symm⟩

/-- An entry for the least length of a subject. -/
def minLengthEntry (severity : Severity) (limit : Nat) : Entry :=
  .given (.list [.int severity.toNat, .text Applicability.always.name, .int limit])

/-- Any number of characters makes a rule. -/
theorem createRule?_minLengthEntry (c : Coercions) {severity : Severity}
    (hs : severity ≠ .disabled) (limit : Nat) :
    createRule? c "subject-min-length".toList (minLengthEntry severity limit) =
      some ⟨Part.subject.name, severity, .always, .each (.minLength limit)⟩ := by
  have hsplit : splitRuleId? "subject-min-length".toList = some (.subject, .minLength) := by decide
  have hsetting : Setting.ofEntry? c (minLengthEntry severity limit) =
      some ⟨severity, .always, .int limit⟩ := by
    simp [minLengthEntry, Setting.ofEntry?, Entry.value?, Setting.ofItems?]
  have hvalue : Constraint.ofValue? .minLength (.int limit) = some (.each (.minLength limit)) := by
    simp [Constraint.ofValue?, Constraint.count?]
  simp only [createRule?, hsplit, hsetting, Option.bind_eq_bind, Option.bind_some, if_neg hs,
    hvalue]
  rfl

theorem isCreated_of_createRule? (h : createRule? c id entry = some r) : r.IsCreated id := by
  obtain ⟨part, kind, setting, constraint, hid, hseverity, hconstraint, rfl⟩ :=
    exists_of_createRule? h
  exact ⟨⟨part, rfl, kind.name, hid⟩, hseverity, Constraint.ofValue?_ne_custom hconstraint⟩

theorem isCreated_of_mem_ofEntries {entries : List (Text × Entry)} {rule : Text × Rule}
    (h : rule ∈ (Engine.ofEntries c entries).rules) : rule.2.IsCreated rule.1 := by
  obtain ⟨⟨id, entry⟩, -, hrule⟩ := List.mem_filterMap.mp h
  obtain ⟨r, hr, rfl⟩ := Option.map_eq_some_iff.mp hrule
  exact isCreated_of_createRule? hr

/-- An identifier begins with the name of a part exactly if its rule is about the part. -/
theorem Rule.IsCreated.isPrefixOf_iff (h : r.IsCreated id) (part : Part) :
    (part.name ++ ['-']).isPrefixOf id = true ↔ r.part = part.name := by
  obtain ⟨p, hp, rest, rfl⟩ := h.part
  rw [List.isPrefixOf_iff_prefix, hp]
  constructor
  · rintro ⟨t, ht⟩
    rw [List.append_assoc] at ht
    exact (Text.eq_of_append_cons part.hyphen_notMem_name p.hyphen_notMem_name ht).1.symm
  · intro hname
    exact ⟨rest, by rw [hname, List.append_assoc, List.singleton_append]⟩

end Created

/-- The rules of a part are those that are about it. -/
theorem forPart_ofEntries (c : Coercions) (entries : List (Text × Entry)) (part : Part) :
    ((Engine.ofEntries c entries).forPart part).rules =
      (Engine.ofEntries c entries).rules.filter fun rule => rule.2.part = part.name := by
  refine List.filter_congr fun rule hrule => ?_
  rw [Bool.eq_iff_iff, decide_eq_true_iff, ← (isCreated_of_mem_ofEntries hrule).isPrefixOf_iff part]
  simp

def configuredRules (c : Coercions) (entries : List (Text × Entry)) : List Rule :=
  (Engine.ofEntries c entries).rules.map Prod.snd

section Entries

variable {c : Coercions} {entries : List (Text × Entry)}

/-- A single entry that builds a rule configures just that rule. -/
theorem configuredRules_singleton {id : Text} {entry : Entry} {r : Rule}
    (h : createRule? c id entry = some r) : configuredRules c [(id, entry)] = [r] := by
  simp [configuredRules, Engine.ofEntries, h]

theorem isBuiltIn_ofEntries (c : Coercions) (entries : List (Text × Entry)) :
    ∀ rule ∈ (Engine.ofEntries c entries).rules, rule.2.IsBuiltIn :=
  fun _ hrule => (isCreated_of_mem_ofEntries hrule).isBuiltIn

theorem exists_isCreated {r : Rule} (h : r ∈ configuredRules c entries) : ∃ id, r.IsCreated id := by
  obtain ⟨rule, hrule, rfl⟩ := List.mem_map.mp h
  exact ⟨rule.1, isCreated_of_mem_ofEntries hrule⟩

theorem severity_ne_disabled {r : Rule} (h : r ∈ configuredRules c entries) :
    r.severity ≠ .disabled := by
  obtain ⟨id, hid⟩ := exists_isCreated h
  exact hid.severity

/-- Where all rules are about one part, no other part has rules. -/
theorem forPart_of_forall_part {part : Part}
    (h : ∀ r ∈ configuredRules c entries, r.part = part.name) (other : Part) :
    ((Engine.ofEntries c entries).forPart other).rules =
      if other = part then (Engine.ofEntries c entries).rules else [] := by
  have hpart : ∀ rule ∈ (Engine.ofEntries c entries).rules, rule.2.part = part.name :=
    fun rule hrule => h rule.2 (List.mem_map_of_mem hrule)
  rw [forPart_ofEntries]
  split
  · rename_i hother
    rw [List.filter_eq_self]
    exact fun rule hrule => by simpa [hother] using hpart rule hrule
  · rename_i hother
    rw [List.filter_eq_nil_iff]
    intro rule hrule
    rw [hpart rule hrule, decide_eq_true_eq]
    exact fun hname => hother (Part.name_injective hname).symm

end Entries

end CommitStandard
