import Mathlib.Tactic
import CommitStandard.Proofs.Engine.Tracking
import CommitStandard.Proofs.Message.Standard

/-!
# What the default rules make of a message

Rules that test single values hand one value on, whether they accept it in the end
or not (`exists_evaluate?_rewriteAll`). Under the default rules a run with repairs
therefore leaves the footers and the type as they are and exchanges the subject and
the body for other texts; the subject is not broken into lines by that
(`process_standard_true`).
-/
namespace CommitStandard

/-- Rules that test single values make one value of one value. -/
theorem map_value_trackAll {rules : List Rule} (h : ∀ r ∈ rules, ∃ t, r.constraint = .each t)
    (s : Text) : (trackAll rules [s]).map Tracked.value = [rewriteAll rules s] := by
  have hfold : ∀ v : Tracked, rules.foldl (fun vs r => r.track vs) [v] =
      [{ v with value := rewriteAll rules v.value }] := by
    induction rules with
    | nil => exact fun v => rfl
    | cons r rules ih =>
      intro v
      obtain ⟨t, ht⟩ := h r List.mem_cons_self
      have htrack : r.track [v] = [{ v with value := r.rewrite v.value }] := by
        rw [Rule.track, ht]
        rfl
      rw [List.foldl_cons, htrack, ih fun q hq => h q (List.mem_cons_of_mem r hq)]
      rfl
  have hstart : trackAll rules [s] = rules.foldl (fun vs r => r.track vs) [⟨some 0, s⟩] := rfl
  rw [hstart, hfold]
  rfl

/-- The rules that make strict tests on a part. -/
def strictTests (part : Part) (ts : List (Applicability × Test)) : List Rule :=
  ts.map fun t => Rule.strict part.name t.1 t.2

/-- A run with repairs leaves what the rules make of the value. -/
theorem Message.exists_evaluate?_rewriteAll {engine : Engine} {part : Part}
    {ts : List (Applicability × Test)} (files : Option ChangedFiles)
    (hr : (engine.forPart part).rules.map Prod.snd = strictTests part ts) (hne : ts ≠ [])
    (hw : ∀ t ∈ ts, t.2.IsWorded) (s : Text) :
    ∃ e, Run.evaluate? ⟨true, files⟩ engine part [s] = some e ∧
      e.firstValue = rewriteAll (strictTests part ts) s := by
  obtain ⟨e, he, -, -⟩ := @evaluate?_strict ⟨true, files⟩ engine part ts hr hne hw s
  refine ⟨e, he, ?_⟩
  have hstrict : ∀ r ∈ strictTests part ts, ∃ t : Applicability × Test,
      r = Rule.strict part.name t.1 t.2 := by
    intro r hmem
    obtain ⟨t, -, rfl⟩ := List.mem_map.mp hmem
    exact ⟨t, rfl⟩
  have houtput : ((engine.forPart part).evaluate [s] true files).output =
      [rewriteAll (strictTests part ts) s] := by
    rw [output_evaluate_true, hr]
    · refine map_value_trackAll (fun r hmem => ?_) s
      obtain ⟨t, rfl⟩ := hstrict r hmem
      exact ⟨t.2, rfl⟩
    · intro rule hrule
      obtain ⟨t, ht⟩ := hstrict rule.2 (hr ▸ List.mem_map_of_mem hrule)
      rw [ht]
      exact ⟨fun check => by simp [Rule.strict], by simp [Rule.strict]⟩
  have hevaluated : e = (engine.forPart part).evaluate [s] true files := by
    rw [Run.evaluate?] at he
    split at he
    · cases he
    · exact (Option.some.inj he).symm
  rw [hevaluated, Evaluation.firstValue, houtput]
  rfl

theorem rewriteAll_typeTests (s : Text) : rewriteAll (strictTests .type typeTests) s = s := by
  have hsame : ∀ t ∈ typeTests, ∀ u, (Rule.strict Part.type.name t.1 t.2).rewrite u = u := by
    intro t ht u
    have hnone : t.2.repair? t.1 = none := by
      simp only [typeTests, List.mem_cons, List.not_mem_nil, or_false] at ht
      rcases ht with rfl | rfl <;> rfl
    rcases Rule.rewrite_cases (r := Rule.strict Part.type.name t.1 t.2) rfl u with
      hsame | ⟨repair, hrepair, -⟩
    · exact hsame
    · cases hnone.symm.trans hrepair
  refine List.foldlRecOn (motive := fun u => u = s) _ _ rfl fun u hu r hr => ?_
  obtain ⟨t, ht, rfl⟩ := List.mem_map.mp hr
  rw [hsame t ht, hu]

/-- No repair of a subject breaks it into lines. -/
theorem newline_mem_of_mem_repair {t : Applicability × Test} (ht : t ∈ subjectTests)
    {repair : Text → Except Text.InvalidWidth Text} (hr : t.2.repair? t.1 = some repair)
    {s s' : Text} (hs : repair s = .ok s') (hn : '\n' ∈ s') : '\n' ∈ s := by
  simp only [subjectTests, List.mem_cons, List.not_mem_nil, or_false] at ht
  rcases ht with rfl | rfl | rfl | rfl | rfl
  · cases hr
  · obtain rfl := Option.some.inj hr
    obtain rfl := Except.ok.inj hs
    exact (Test.removeStops_isPrefix ['.'] s).subset hn
  · obtain rfl := Option.some.inj hr
    obtain rfl := Except.ok.inj hs
    exact LetterCase.mem_of_mem_sentence hn (by decide) (by decide)
  · cases hr
  · obtain rfl := Option.some.inj hr
    obtain rfl := Except.ok.inj hs
    exact (Text.truncate_isPrefix s 60).subset hn

theorem newline_mem_of_mem_rewriteAll {s : Text}
    (hn : '\n' ∈ rewriteAll (strictTests .subject subjectTests) s) : '\n' ∈ s := by
  refine List.foldlRecOn (motive := fun u => '\n' ∈ u → '\n' ∈ s) _ _ id ?_ hn
  intro u hu r hr hmem
  obtain ⟨t, ht, rfl⟩ := List.mem_map.mp hr
  rcases Rule.rewrite_cases (r := Rule.strict Part.subject.name t.1 t.2) rfl u with
    hsame | ⟨repair, hrepair, hrewrite⟩
  · exact hu (hsame ▸ hmem)
  · exact hu (newline_mem_of_mem_repair ht hrepair hrewrite hmem)

/-- Under the default rules a repair exchanges the subject and the body of a message. -/
theorem Message.process_standard_true (m : Message) (files : Option ChangedFiles) :
    ∃ p subject body, m.process Engine.standard true files = .ok p ∧
      p.message = { m with header := (m.header.setType m.header.type).setSubject subject, body } ∧
      ('\n' ∈ subject → '\n' ∈ m.header.subject) := by
  obtain ⟨t, ht, htype⟩ :=
    exists_evaluate?_rewriteAll files rules_type (by simp [typeTests]) (by decide) m.header.type
  obtain ⟨s, hs, hsubject⟩ :=
    exists_evaluate?_rewriteAll files rules_subject (by simp [subjectTests]) (by decide)
      m.header.subject
  obtain ⟨b, hb, -⟩ :=
    exists_evaluate?_rewriteAll files rules_body (by simp [bodyTests]) (by decide) m.body
  have hprocess := process_of_evaluations ht hs hb
  refine ⟨_, s.firstValue, b.firstValue, hprocess, ?_, fun hn => ?_⟩
  · rw [htype, rewriteAll_typeTests]
  · rw [hsubject] at hn
    exact newline_mem_of_mem_rewriteAll hn

end CommitStandard
