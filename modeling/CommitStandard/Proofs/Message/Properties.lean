import Mathlib.Tactic
import CommitStandard.Proofs.Engine.Dependability
import CommitStandard.Proofs.Message.Verdict

/-!
# Required and forbidden properties

The description of a standard lists the properties that a message must, may and must
not have. Identifiers are not repeated among the entries of a configuration, so that
at most one rule decides on the emptiness of a property (`eq_of_mem_emptinessRules`)
and no property is listed twice. `process_allowedProperties` says that checking
reports on every message that lacks what is required or has what is forbidden.
-/
namespace CommitStandard

variable {c : Coercions}

namespace Engine

theorem ids_ofEntries_sublist (c : Coercions) (entries : List (Text × Entry)) :
    (ofEntries c entries).ids.Sublist (entries.map Prod.fst) := by
  unfold ids ofEntries
  induction entries with
  | nil => exact List.Sublist.refl _
  | cons entry entries ih =>
    obtain ⟨id, value⟩ := entry
    cases hr : createRule? c id value with
    | none =>
      rw [List.filterMap_cons_none (by simp only [hr, Option.map_none])]
      exact ih.cons _
    | some r =>
      rw [List.filterMap_cons_some (b := (id, r)) (by simp only [hr, Option.map_some])]
      exact ih.cons_cons _

end Engine

section Emptiness

variable {r : Rule} {values : List Text} (files : Option ChangedFiles)

/-- Whether there is nothing but blanks in the values of a part. -/
def AllBlank (values : List Text) : Prop := ∀ v ∈ values, Text.isBlankText v = true

instance (values : List Text) : Decidable (AllBlank values) :=
  inferInstanceAs (Decidable (∀ v ∈ values, Text.isBlankText v = true))

/-- A rule about emptiness is violated where its applicability does not fit. -/
theorem Rule.validate_ne_nil_of_empty (hc : r.constraint = .each .empty)
    (h : r.applicability = .always ↔ ¬ AllBlank values) : r.validate values files ≠ .ok [] := by
  obtain ⟨s, hs, hblank⟩ : ∃ s ∈ Rule.testedValues .empty values,
      Text.isBlankText s = !(r.applicability == .always) := by
    cases ha : r.applicability with
    | always =>
      obtain ⟨s, hs, hblank⟩ : ∃ s ∈ values, ¬ Text.isBlankText s = true := by
        simpa [AllBlank] using h.mp ha
      refine ⟨s, ?_, by simpa using hblank⟩
      -- The one empty value that stands for no values is blank.
      cases values with
      | nil => cases hs
      | cons v values => exact hs
    | never =>
      have hall : AllBlank values := by
        by_contra hnot
        rw [h.mpr hnot] at ha
        cases ha
      cases values with
      | nil => exact ⟨[], List.mem_singleton.mpr rfl, rfl⟩
      | cons v values => exact ⟨v, List.mem_cons_self, hall v List.mem_cons_self⟩
  have hfails : r.complies .empty s = false := by
    rw [Rule.complies, Test.holds, Rule.accepts, hblank]
    cases r.applicability <;> rfl
  rw [Rule.validate_each hc, Ne, Rule.report_eq_nil_iff, Rule.violating_eq_nil_iff]
  intro hall
  rw [hall s hs] at hfails
  cases hfails

/-- A demanded value is missing where there are no values. -/
theorem Rule.validate_nil_ne_nil_of_presence {wanted : List Text} (hw : wanted ≠ [])
    (hc : r.constraint = .presence wanted) (ha : r.applicability = .always) :
    r.validate [] files ≠ .ok [] := by
  have hmissing : Rule.missing wanted [] = wanted := by
    simp [Rule.missing]
  rw [Rule.validate, hc, ha, Ne, Rule.report_eq_nil_iff]
  simp [hmissing, hw]

end Emptiness

section Decisions

variable {entries : List (Text × Entry)} {property : Part} {r r' : Rule}

/-- A configured rule stands under its own identifier and has the constraint that its kind has
with some value. -/
theorem exists_ofValue? (h : r ∈ configuredRules c entries) :
    (r.id, r) ∈ (Engine.ofEntries c entries).rules ∧
      ∃ value, Constraint.ofValue? r.kind value = some r.constraint := by
  obtain ⟨⟨id, r⟩, hrule, rfl⟩ := List.mem_map.mp h
  obtain ⟨⟨id', entry⟩, -, hentry⟩ := List.mem_filterMap.mp hrule
  obtain ⟨created, hcreated, heq⟩ := Option.map_eq_some_iff.mp hentry
  obtain ⟨rfl, rfl⟩ := Prod.mk.inj heq
  exact ⟨(id_eq_and_admits_of_createRule? hcreated).1 ▸ hrule,
    exists_ofValue?_of_createRule? hcreated⟩

theorem mem_emptinessRules (h : r ∈ (Engine.ofEntries c entries).emptinessRules property) :
    r ∈ configuredRules c entries ∧ r.part = property.name ∧ r.kind = .empty := by
  obtain ⟨h, hpart⟩ := List.mem_filter.mp h
  obtain ⟨hr, hkind⟩ := List.mem_filter.mp h
  simp only [Bool.and_eq_true, beq_iff_eq] at hpart
  exact ⟨hr, hpart.1.1.1, by simpa using hkind⟩

theorem mem_trailerDemands (h : r ∈ (Engine.ofEntries c entries).trailerDemands) :
    r ∈ (Engine.ofEntries c entries).rulesFor .trailer ∧ r.kind = .presence ∧
      r.applicability = .always := by
  obtain ⟨h, happlicability⟩ := List.mem_filter.mp h
  obtain ⟨hr, hkind⟩ := List.mem_filter.mp h
  exact ⟨hr, by simpa using hkind, by simpa using happlicability⟩

/-- At most one rule decides on the emptiness of a property. -/
theorem eq_of_mem_emptinessRules (hd : (entries.map Prod.fst).Nodup)
    (h : r ∈ (Engine.ofEntries c entries).emptinessRules property)
    (h' : r' ∈ (Engine.ofEntries c entries).emptinessRules property) : r = r' := by
  have hkeyed : ∀ {r}, r ∈ (Engine.ofEntries c entries).emptinessRules property →
      (property.name ++ '-' :: Kind.empty.name, r) ∈ (Engine.ofEntries c entries).rules := by
    intro r h
    obtain ⟨hr, hpart, hkind⟩ := mem_emptinessRules h
    rw [← hpart, ← hkind]
    exact (exists_ofValue? hr).1
  have hids := hd.sublist (Engine.ids_ofEntries_sublist c entries)
  exact congrArg Prod.snd (List.inj_on_of_nodup_map hids (hkeyed h) (hkeyed h') rfl)

/-- The rules on the emptiness of a property do not contradict each other. -/
theorem not_never_and_always (hd : (entries.map Prod.fst).Nodup)
    (hnever : ((Engine.ofEntries c entries).emptinessRules property).any
      (·.applicability == .never) = true)
    (halways : ((Engine.ofEntries c entries).emptinessRules property).any
      (·.applicability == .always) = true) : False := by
  obtain ⟨r, hr, hnever⟩ := List.any_eq_true.mp hnever
  obtain ⟨r', hr', halways⟩ := List.any_eq_true.mp halways
  rw [eq_of_mem_emptinessRules hd hr hr', beq_iff_eq.mp halways] at hnever
  cases hnever

/-- No property is listed twice. -/
theorem nodup_allowedProperties (hd : (entries.map Prod.fst).Nodup) :
    ((Engine.ofEntries c entries).allowedProperties.required ++
      (Engine.ofEntries c entries).allowedProperties.optional ++
      (Engine.ofEntries c entries).allowedProperties.forbidden).Nodup := by
  have hlist : Part.properties.Nodup := by decide
  simp only [Engine.allowedProperties]
  rw [List.nodup_append, List.nodup_append]
  refine ⟨⟨hlist.filter _, hlist.filter _, ?_⟩, hlist.filter _, ?_⟩
  · rintro p hrequired q hoptional rfl
    obtain ⟨-, hrequired⟩ := List.mem_filter.mp hrequired
    obtain ⟨-, hoptional⟩ := List.mem_filter.mp hoptional
    simp only [Bool.and_eq_true, Bool.not_eq_true', List.isEmpty_iff] at hoptional
    rw [hoptional.1.1, hoptional.2] at hrequired
    cases hrequired
  · rintro p hlisted q hforbidden rfl
    obtain ⟨-, hforbidden⟩ := List.mem_filter.mp hforbidden
    simp only [Bool.and_eq_true, Bool.not_eq_true'] at hforbidden
    rcases List.mem_append.mp hlisted with hrequired | hoptional
    · obtain ⟨-, hrequired⟩ := List.mem_filter.mp hrequired
      rw [hforbidden.1, Bool.false_or] at hrequired
      exact not_never_and_always hd hrequired hforbidden.2
    · obtain ⟨-, hoptional⟩ := List.mem_filter.mp hoptional
      simp only [Bool.and_eq_true, List.isEmpty_iff] at hoptional
      rw [hoptional.2] at hforbidden
      cases hforbidden.2

/-- Every property but the namespace is listed. -/
theorem mem_allowedProperties (e : Engine) (hp : property ∈ Part.properties)
    (hn : property ≠ .nameSpace) : property ∈ e.allowedProperties.required ++
      e.allowedProperties.optional ++ e.allowedProperties.forbidden := by
  rw [List.append_assoc, List.mem_append, List.mem_append]
  simp only [Engine.allowedProperties, List.mem_filter, hp, true_and]
  cases e.demandsFooters property with
  | true => exact Or.inl rfl
  | false =>
    cases hr : e.emptinessRules property with
    | nil => exact Or.inr (Or.inl (by simpa using hn))
    | cons r rules =>
      cases ha : r.applicability with
      | never => exact Or.inl (by simp [ha])
      | always => exact Or.inr (Or.inr (by simp [ha]))

end Decisions

namespace Message

/-- Whether a property of a message is blank or absent. -/
def Lacks (m : Message) (property : Part) : Prop := AllBlank (m.values property)

instance (m : Message) (property : Part) : Decidable (m.Lacks property) :=
  inferInstanceAs (Decidable (AllBlank (m.values property)))

/-- A line of a footer is never blank. -/
theorem lacks_footers_iff {m : Message} : m.Lacks .footers ↔ m.footers = [] := by
  constructor
  · intro h
    by_contra hne
    obtain ⟨f, fs, hfs⟩ := List.exists_cons_of_ne_nil hne
    have hblank := h f.plain (List.mem_map_of_mem (hfs ▸ List.mem_cons_self))
    rw [Footer.isBlankText_plain] at hblank
    cases hblank
  · intro h
    rw [Lacks, values, h]
    simp [AllBlank]

/-- The values of a part when its stage is reached without repairs. -/
def stageValues (m : Message) (e : Engine) : Part → List Text
  | .footers => (m.writtenBack e).values .footers
  | property => m.values property

theorem allBlank_stageValues_iff {m : Message} {e : Engine} {property : Part} :
    AllBlank (m.stageValues e property) ↔ m.Lacks property := by
  cases property with
  | footers =>
    have hback : AllBlank (m.stageValues e .footers) ↔ (m.writtenBack e).footers = [] :=
      lacks_footers_iff
    rw [hback, lacks_footers_iff, writtenBack, List.map_eq_nil_iff]
  | nameSpace | type | scope | subject | header | body | footer | trailer => exact Iff.rfl

section Reported

variable {entries : List (Text × Entry)} {files : Option ChangedFiles} {m : Message} {r : Rule}
  {part : Part}

/-- A violated rule is reported. -/
theorem exists_mem_checkReports {values : List Text}
    (hr : r ∈ (Engine.ofEntries c entries).rulesFor part) (hv : r.validate values files ≠ .ok []) :
    ∃ rep ∈ (Engine.ofEntries c entries).checkReports files part values, rep.type = part.name := by
  obtain ⟨id, hid⟩ := exists_isCreated (mem_rulesFor_iff.mp hr).1
  obtain ⟨f, hf⟩ := List.exists_mem_of_ne_nil _ (mt Rule.labelled_eq_nil_iff.mp hv)
  obtain ⟨σ, hσ, hrecorded⟩ :
      ∃ σ, σ ≠ Severity.disabled ∧ f ∈ (r.recordedAs σ values files).recorded := by
    rw [← Rule.recordedAs_error_append_warning hid.severity, List.mem_append] at hf
    rcases hf with hf | hf
    · exact ⟨.error, by decide, hf⟩
    · exact ⟨.warning, by decide, hf⟩
  have hmessage : f.2 ∈ (labelledOf σ ((Engine.ofEntries c entries).rulesFor part) values
      files).map Prod.snd :=
    List.mem_map_of_mem (List.mem_flatMap.mpr ⟨r, hr, hrecorded⟩)
  have hperm := @flatMap_checkReports_perm (.ofEntries c entries) files σ hσ part values
  obtain ⟨rep, hrep, -⟩ := List.mem_flatMap.mp (hperm.mem_iff.mpr hmessage)
  exact ⟨rep, hrep, type_of_mem_checkReports hrep⟩

theorem mem_checkedReports_of_mem {e : Engine} {rep : Report}
    (hpart : part ∈ .trailer :: Part.properties)
    (h : rep ∈ e.checkReports files part (m.stageValues e part)) :
    rep ∈ m.checkedReports e files := by
  simp only [checkedReports, List.mem_append]
  cases part with
  | header | footer => exact absurd hpart (by decide)
  | nameSpace | type | scope | subject =>
    exact Or.inl (Or.inl (Or.inl (Or.inl (Or.inl (List.mem_flatMap.mpr ⟨_, by simp, h⟩)))))
  | body => exact Or.inl (Or.inl (Or.inl (Or.inr h)))
  | trailer => exact Or.inl (Or.inr h)
  | footers => exact Or.inr h

/-- A rule about emptiness is reported where its applicability does not fit. -/
theorem exists_report_of_emptiness {property : Part} (hp : property ∈ Part.properties)
    (hr : r ∈ (Engine.ofEntries c entries).emptinessRules property)
    (h : r.applicability = .always ↔ ¬ m.Lacks property) :
    ∃ rep ∈ m.checkedReports (.ofEntries c entries) files, rep.type = property.name := by
  obtain ⟨hconfigured, hpart, hkind⟩ := mem_emptinessRules hr
  obtain ⟨-, value, hconstraint⟩ := exists_ofValue? hconfigured
  rw [hkind] at hconstraint
  have hrule := mem_rulesFor_iff.mpr ⟨hconfigured, hpart⟩
  rw [← allBlank_stageValues_iff (e := .ofEntries c entries)] at h
  have hviolated := Rule.validate_ne_nil_of_empty files (Option.some.inj hconstraint).symm h
  obtain ⟨rep, hrep, htype⟩ := exists_mem_checkReports hrule hviolated
  exact ⟨rep, mem_checkedReports_of_mem (List.mem_cons_of_mem _ hp) hrep, htype⟩

/-- A demanded trailer is reported where there are no footers. -/
theorem exists_report_of_trailerDemand (hr : r ∈ (Engine.ofEntries c entries).trailerDemands)
    (h : m.Lacks .footers) :
    ∃ rep ∈ m.checkedReports (.ofEntries c entries) files, rep.type = Part.trailer.name := by
  obtain ⟨hrule, hkind, happlicability⟩ := mem_trailerDemands hr
  obtain ⟨-, value, hconstraint⟩ := exists_ofValue? (mem_rulesFor_iff.mp hrule).1
  rw [hkind] at hconstraint
  obtain ⟨wanted, hwanted, hpresence⟩ := Option.map_eq_some_iff.mp hconstraint
  have hnone : m.stageValues (.ofEntries c entries) .trailer = [] := by
    show m.trailers = []
    rw [trailers, lacks_footers_iff.mp h, List.map_nil]
  have hviolated := Rule.validate_nil_ne_nil_of_presence files
    (Constraint.ne_nil_of_someTexts? hwanted) hpresence.symm happlicability
  obtain ⟨rep, hrep, htype⟩ := exists_mem_checkReports hrule hviolated
  exact ⟨rep, mem_checkedReports_of_mem List.mem_cons_self (hnone ▸ hrep), htype⟩

end Reported

/-- The lists of properties do not share any and have each but the namespace, which may be in
none of them. Checking always has an outcome, and it reports on the property if one that is
required is blank or absent or one that is forbidden is there; a demanded trailer may be reported
in place of missing footers. -/
theorem process_allowedProperties {entries : List (Text × Entry)}
    (hd : (entries.map Prod.fst).Nodup) :
    ∃ required optional forbidden,
      (Engine.ofEntries c entries).allowedProperties = ⟨required, optional, forbidden⟩ ∧
      (required ++ optional ++ forbidden).Nodup ∧
      (∀ p ∈ [Part.type, .scope, .subject, .body, .footers],
        (required ++ optional ++ forbidden).count p = 1) ∧
      ∀ (m : Message) (files : Option ChangedFiles), ∃ done,
        m.process (.ofEntries c entries) false files = .ok done ∧
        (∀ p ∈ required, m.Lacks p → ∃ rep ∈ done.reports,
          rep.type = p.name ∨ p = .footers ∧ rep.type = Part.trailer.name) ∧
        (∀ p ∈ forbidden, ¬ m.Lacks p → ∃ rep ∈ done.reports, rep.type = p.name) := by
  have hnodup := nodup_allowedProperties (c := c) hd
  refine ⟨_, _, _, rfl, hnodup, fun p hp => ?_, fun m files => ⟨_, process_false _ files m, ?_, ?_⟩⟩
  · have hlisted : p ∈ Part.properties ∧ p ≠ .nameSpace := by
      revert hp
      cases p <;> decide
    exact List.count_eq_one_of_mem hnodup (mem_allowedProperties _ hlisted.1 hlisted.2)
  · intro p hp hlacks
    obtain ⟨hproperty, hrequired⟩ := List.mem_filter.mp hp
    rcases Bool.or_eq_true_iff.mp hrequired with hdemand | hnever
    · simp only [Engine.demandsFooters, Bool.and_eq_true, beq_iff_eq, Bool.not_eq_true',
        List.isEmpty_eq_false_iff] at hdemand
      obtain ⟨rfl, hsome⟩ := hdemand
      obtain ⟨r, hr⟩ := List.exists_mem_of_ne_nil _ hsome
      obtain ⟨rep, hrep, htype⟩ := exists_report_of_trailerDemand hr hlacks
      exact ⟨rep, hrep, Or.inr ⟨rfl, htype⟩⟩
    · obtain ⟨r, hr, happlicability⟩ := List.any_eq_true.mp hnever
      have hmisfit : r.applicability = .always ↔ ¬ m.Lacks p := by
        simp [beq_iff_eq.mp happlicability, hlacks]
      obtain ⟨rep, hrep, htype⟩ := exists_report_of_emptiness hproperty hr hmisfit
      exact ⟨rep, hrep, Or.inl htype⟩
  · intro p hp hgiven
    obtain ⟨hproperty, hforbidden⟩ := List.mem_filter.mp hp
    obtain ⟨r, hr, happlicability⟩ := List.any_eq_true.mp (Bool.and_eq_true_iff.mp hforbidden).2
    have hmisfit : r.applicability = .always ↔ ¬ m.Lacks p := by
      simp [beq_iff_eq.mp happlicability, hgiven]
    exact exists_report_of_emptiness hproperty hr hmisfit

/-- A configuration that requires a type, forbids a body, and forbids footers but demands one. -/
def contradicting : List (Text × Entry) :=
  [("type-empty".toList, .given (.list [.int 2, .text "never".toList])),
   ("body-empty".toList, .given (.list [.int 1, .text "always".toList])),
   ("footers-empty".toList, .given (.list [.int 2, .text "always".toList])),
   ("trailer-exists".toList,
    .given (.list [.int 2, .text "always".toList, .list [.text "Refs".toList]]))]

theorem process_allowedProperties_contradicting :
    (contradicting.map Prod.fst).Nodup ∧
      (Engine.ofEntries .lax contradicting).allowedProperties =
        ⟨[.type, .footers], [.scope, .subject], [.body]⟩ ∧
      ∃ m, parse .standard "Add X\n\nBody.".toList = .ok m ∧
        m.Lacks .type ∧ m.Lacks .footers ∧ ¬ m.Lacks .body ∧
        ∃ done, m.process (.ofEntries .lax contradicting) false none = .ok done ∧
          (∃ rep ∈ done.reports, rep.type = Part.type.name) ∧
          (∃ rep ∈ done.reports, rep.type = Part.footers.name ∨ rep.type = Part.trailer.name) ∧
          ∃ rep ∈ done.reports, rep.type = Part.body.name := by
  have hd : (contradicting.map Prod.fst).Nodup := by decide
  have hlists : (Engine.ofEntries .lax contradicting).allowedProperties =
      ⟨[.type, .footers], [.scope, .subject], [.body]⟩ := by decide +kernel
  obtain ⟨m, hm, htype, hfooters, hbody⟩ : ∃ m, parse .standard "Add X\n\nBody.".toList = .ok m ∧
      m.Lacks .type ∧ m.Lacks .footers ∧ ¬ m.Lacks .body :=
    ⟨_, rfl, by decide +kernel, by decide +kernel, by decide +kernel⟩
  obtain ⟨required, optional, forbidden, hproperties, -, -, hprocess⟩ :=
    process_allowedProperties hd
  obtain ⟨rfl, rfl, rfl⟩ := AllowedProperties.mk.inj (hproperties.symm.trans hlists)
  obtain ⟨done, hdone, hrequired, hforbidden⟩ := hprocess m none
  have hmissing := hrequired .type (by decide) htype
  have hdemanded := hrequired .footers (by decide) hfooters
  simp only [reduceCtorEq, false_and, true_and, or_false] at hmissing hdemanded
  exact ⟨hd, hlists, m, hm, htype, hfooters, hbody, done, hdone, hmissing, hdemanded,
    hforbidden .body (by decide) hbody⟩

end Message

end CommitStandard
