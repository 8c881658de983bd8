import Mathlib.Tactic
import CommitStandard.Proofs.Engine.Tracking
import CommitStandard.Proofs.Message.Stages
import CommitStandard.Proofs.Message.Unrepaired

/-!
# Repairing footer texts

Rules about the texts of footers look at the bare list of them, and what they leave
goes to the footers by its places. No text moves to another footer exactly if a
text is only taken out where none is left but those before it (`inPlace_iff`),
which is what `process_texts_inPlace_iff` says of messages.
-/
namespace CommitStandard

/-- Whether the values at the first places are those that began there. -/
def InPlace (n : Nat) (vs : List Tracked) : Prop :=
  ∀ i < n, ∀ v, vs[i]? = some v → v.origin = some i

/-- A value that began at an index cannot be found after it. -/
theorem le_of_origin {vs : List Tracked} (hp : vs.Pairwise Tracked.Before) {i j : Nat} {v : Tracked}
    (hv : vs[i]? = some v) (hj : v.origin = some j) : i ≤ j := by
  induction i generalizing v j with
  | zero => exact Nat.zero_le j
  | succ i ih =>
    obtain ⟨hi, hget⟩ := List.getElem?_eq_some_iff.mp hv
    have hbefore := List.pairwise_iff_getElem.mp hp i (i + 1) (by omega) hi (Nat.lt_succ_self i)
    rw [hget] at hbefore
    obtain ⟨k, hk, horigin⟩ := hbefore j hj
    have hle := ih (List.getElem?_eq_getElem (by omega)) horigin
    omega

/-- Values stay in place exactly if each one that is taken out leaves only those before it. -/
theorem inPlace_iff {vs : List Tracked} (hp : vs.Pairwise Tracked.Before) (n : Nat) :
    InPlace n vs ↔ ∀ i < n, (∀ v ∈ vs, v.origin ≠ some i) →
      ∀ v ∈ vs, ∃ j < i, v.origin = some j := by
  constructor
  · intro h i hi hgone v hv
    obtain ⟨j, hj⟩ := List.mem_iff_getElem?.mp hv
    have hlength : vs.length ≤ i := by
      by_contra hlt
      exact hgone _ (List.getElem_mem (by omega))
        (h i hi _ (List.getElem?_eq_getElem (by omega)))
    obtain ⟨hlt, -⟩ := List.getElem?_eq_some_iff.mp hj
    exact ⟨j, by omega, h j (by omega) v hj⟩
  · intro h i
    induction i using Nat.strong_induction_on with
    | _ i ih =>
      intro hi v hv
      by_contra hne
      -- The value that began here is gone: those before are in place, and it cannot come later.
      have hgone : ∀ w ∈ vs, w.origin ≠ some i := by
        intro w hw horigin
        obtain ⟨j, hj⟩ := List.mem_iff_getElem?.mp hw
        rcases Nat.lt_or_eq_of_le (le_of_origin hp hj horigin) with hlt | rfl
        · have hplace := ih j hlt (by omega) w hj
          rw [horigin] at hplace
          exact absurd (Option.some.inj hplace) (by omega)
        · rw [hj] at hv
          exact hne (Option.some.inj hv ▸ horigin)
      obtain ⟨j, hj, horigin⟩ := h i hi hgone v (List.mem_of_getElem? hv)
      have hle := le_of_origin hp hv horigin
      omega

/-- Rules that take nothing out leave all values in place. -/
theorem inPlace_trackAll {rules : List Rule} (h : ∀ r ∈ rules, ¬r.TakesOut) (texts : List Text) :
    InPlace texts.length (trackAll rules texts) := by
  obtain ⟨start, hstart⟩ : ∃ start : List Tracked, (texts.mapIdx fun i s => ⟨some i, s⟩) = start :=
    ⟨_, rfl⟩
  have hbegin : InPlace texts.length start ∧ texts.length ≤ start.length := by
    rw [← hstart]
    refine ⟨fun i hi v hv => ?_, by simp⟩
    rw [List.getElem?_mapIdx, List.getElem?_eq_getElem hi] at hv
    rw [← Option.some.inj hv]
  have hall : InPlace texts.length (trackAll rules texts) ∧
      texts.length ≤ (trackAll rules texts).length := by
    rw [trackAll, hstart]
    refine List.foldlRecOn (motive := fun vs => InPlace texts.length vs ∧ texts.length ≤ vs.length)
      rules _ hbegin ?_
    rintro vs ⟨hplace, hlength⟩ r hr
    rcases r.track_cases vs with hmap | ⟨-, ⟨hout, -⟩ | ⟨added, hadded⟩⟩
    · rw [hmap]
      refine ⟨fun i hi v hv => ?_, by simpa using hlength⟩
      rw [List.getElem?_map] at hv
      obtain ⟨w, hw, rfl⟩ := Option.map_eq_some_iff.mp hv
      exact hplace i hi w hw
    · exact absurd hout (h r hr)
    · rw [hadded]
      refine ⟨fun i hi v hv => ?_, by simp; omega⟩
      rw [List.getElem?_append_left (by omega)] at hv
      exact hplace i hi v hv
  exact hall.1

namespace Message

/-- Footers with the texts that are left, by their places. -/
def placeTexts (left : List Tracked) (fs : List Footer) : List Footer :=
  fs.mapIdx fun i f => (left[i]?.map fun v => f.setText v.value).getD f

theorem setTexts_eq (fs : List Footer) (left : List Tracked) :
    setTexts fs (left.map Tracked.value) = placeTexts left fs := by
  induction fs generalizing left with
  | nil => cases left <;> rfl
  | cons f fs ih =>
    cases left with
    | nil =>
      rw [placeTexts]
      exact (List.mapIdx_eq_iff.mpr fun i => by simp [setTexts]).symm
    | cons v left =>
      rw [List.map_cons, setTexts, ih, placeTexts, placeTexts, List.mapIdx_cons]
      rfl

/-- Texts in place are what the rules make of the footers' own ones. -/
theorem placeTexts_of_inPlace {rules : List Rule} {left : List Tracked} {fs : List Footer}
    (hmade : ∀ v ∈ left, v.IsMade rules (fs.map Footer.text)) (hplace : InPlace fs.length left) :
    placeTexts left fs = fs.mapIdx fun i f =>
      if i < left.length then f.setText (rewriteAll rules f.text) else f := by
  refine List.mapIdx_eq_mapIdx_iff.mpr fun i hi => ?_
  by_cases hlt : i < left.length
  · have hv := List.getElem?_eq_getElem hlt
    obtain ⟨s, hs, hvalue⟩ := hmade _ (List.getElem_mem hlt) i (hplace i hi _ hv)
    rw [List.getElem?_map, List.getElem?_eq_getElem hi, Option.map_some, Option.some.injEq] at hs
    rw [if_pos hlt, hv, Option.map_some, Option.getD_some, hvalue, hs]
  · rw [if_neg hlt, List.getElem?_eq_none (by omega)]
    rfl

section OnlyTexts

variable {options : HeaderOptions} {s : Text} {m : Message} {c : Coercions}
  {entries : List (Text × Entry)}

/-- Where all rules are about the texts of footers, these get the texts that the rules leave. -/
theorem process_of_onlyTexts (hm : parse options s = .ok m)
    (h : ∀ r ∈ configuredRules c entries, r.part = Part.footer.name) (files : Option ChangedFiles) :
    ∃ p, m.process (.ofEntries c entries) true files = .ok p ∧ p.message =
      { m with
        footers :=
          placeTexts (trackAll (configuredRules c entries) (m.footers.map Footer.text))
            m.footers } := by
  have hidle : ∀ part, part ≠ .footer → ((Engine.ofEntries c entries).forPart part).rules = [] :=
    fun part hpart => by rw [forPart_of_forall_part h, if_neg hpart]
  have hfields : processFields ⟨true, files⟩ (.ofEntries c entries) m.header HeaderField.all =
      (m.header, []) :=
    processFields_eq_self (fun field _ => hidle _ (by cases field <;> decide)) m.header
  have hheader : processHeader ⟨true, files⟩ (.ofEntries c entries) m.header = .ok (m.header, []) :=
    processHeader_eq_self (hidle _ (by decide)) m.header
  have hbody : processBody ⟨true, files⟩ (.ofEntries c entries) m.body = (m.body, []) :=
    processBody_eq_self (hidle _ (by decide)) m.body
  have htokens : ∀ fs, processTokens ⟨true, files⟩ (.ofEntries c entries) fs = (fs, []) :=
    processTokens_eq_self (hidle _ (by decide))
  have hlines : ∀ fs, processLines ⟨true, files⟩ (.ofEntries c entries) fs = (fs, []) :=
    processLines_eq_self (hidle _ (by decide))
  obtain ⟨reports, htexts⟩ : ∃ reports,
      processTexts ⟨true, files⟩ (.ofEntries c entries) m.footers =
      (placeTexts (trackAll (configuredRules c entries) (m.footers.map Footer.text)) m.footers,
        reports) := by
    have hrules : ((Engine.ofEntries c entries).forPart .footer).rules =
        (Engine.ofEntries c entries).rules := by rw [forPart_of_forall_part h, if_pos rfl]
    have hleft := output_evaluate_true (e := (Engine.ofEntries c entries).forPart .footer)
      (fun rule hrule => ⟨(isCreated_of_mem_ofEntries (hrules ▸ hrule)).isBuiltIn,
        (isCreated_of_mem_ofEntries (hrules ▸ hrule)).severity⟩) (m.footers.map Footer.text) files
    rw [hrules] at hleft
    rw [← setTexts_eq, configuredRules, ← hleft, processTexts, Run.evaluate?]
    by_cases hempty : ((Engine.ofEntries c entries).forPart .footer).isEmpty = true
    · have hnone : ((Engine.ofEntries c entries).forPart .footer).rules = [] := by
        simpa [Engine.isEmpty] using hempty
      have hsteady : m.footers.map (fun f => f.setText f.text) = m.footers :=
        (List.map_congr_left fun f hf => congrArg (Footer.mk f.token · f.style)
          (isSteady_of_parse hm (by decide : Part.footer ≠ .trailer) f hf)).trans
            (List.map_id m.footers)
      rw [if_pos hempty, Engine.evaluate, hnone]
      exact ⟨[], by rw [List.map_nil, List.foldl_nil, setTexts_texts, hsteady]⟩
    · rw [if_neg hempty]
      exact ⟨_, rfl⟩
  unfold process
  simp only [hfields, hheader, hbody, htexts, htokens, hlines]
  exact ⟨_, rfl, rfl⟩

/-- Repairing the texts of a message that was read moves none of them to another footer exactly if
each text that is taken out leaves only those of the footers before it; then every footer has
what the rules make of its own text, or keeps it. -/
theorem process_texts_inPlace_iff (hm : parse options s = .ok m)
    (h : ∀ r ∈ configuredRules c entries, r.part = Part.footer.name) (files : Option ChangedFiles) :
    ∃ p left, m.process (.ofEntries c entries) true files = .ok p ∧
      left = trackAll (configuredRules c entries) (m.footers.map Footer.text) ∧
      p.message = { m with footers := placeTexts left m.footers } ∧
      (∀ v ∈ left, v.IsMade (configuredRules c entries) (m.footers.map Footer.text)) ∧
      (InPlace m.footers.length left ↔ ∀ i < m.footers.length,
        (∀ v ∈ left, v.origin ≠ some i) → ∀ v ∈ left, ∃ j < i, v.origin = some j) ∧
      ((∀ r ∈ configuredRules c entries, ¬r.TakesOut) → InPlace m.footers.length left) ∧
      (InPlace m.footers.length left → p.message.footers = m.footers.mapIdx fun i f =>
        if i < left.length then f.setText (rewriteAll (configuredRules c entries) f.text)
        else f) := by
  obtain ⟨p, hp, hmessage⟩ := process_of_onlyTexts hm h files
  have hmade := isMade_of_mem_trackAll (configuredRules c entries) (m.footers.map Footer.text)
  refine ⟨p, _, hp, rfl, hmessage, hmade, inPlace_iff (pairwise_trackAll _ _) _,
    fun hkeep => ?_, fun hplace => ?_⟩
  · simpa using inPlace_trackAll hkeep (m.footers.map Footer.text)
  · rw [hmessage]
    exact placeTexts_of_inPlace hmade hplace

end OnlyTexts

/-- A text that no footer may have. -/
def forbiddenText : List (Text × Entry) :=
  [("footer-exists".toList,
    .given (.list [.int 2, .text "never".toList, .list [.text "x".toList]]))]

theorem process_texts_forbiddenText :
    (∀ r ∈ configuredRules .lax forbiddenText, r.part = Part.footer.name) ∧
      ∃ m, parse .standard "X\n\nA: y\n\nB: x".toList = .ok m ∧
      ∃ p left, m.process (.ofEntries .lax forbiddenText) true none = .ok p ∧
        left = trackAll (configuredRules .lax forbiddenText) (m.footers.map Footer.text) ∧
        p.message = { m with footers := placeTexts left m.footers } ∧
        (∀ v ∈ left, v.IsMade (configuredRules .lax forbiddenText) (m.footers.map Footer.text)) ∧
        (InPlace m.footers.length left ↔ ∀ i < m.footers.length,
          (∀ v ∈ left, v.origin ≠ some i) → ∀ v ∈ left, ∃ j < i, v.origin = some j) ∧
        ((∀ r ∈ configuredRules .lax forbiddenText, ¬r.TakesOut) → InPlace m.footers.length left) ∧
        (InPlace m.footers.length left → p.message.footers = m.footers.mapIdx fun i f =>
          if i < left.length then f.setText (rewriteAll (configuredRules .lax forbiddenText) f.text)
          else f) := by
  have h : ∀ r ∈ configuredRules .lax forbiddenText, r.part = Part.footer.name := by decide +kernel
  obtain ⟨m, hm⟩ := exists_parse "X\n\nA: y\n\nB: x".toList
  exact ⟨h, m, hm, process_texts_inPlace_iff hm h none⟩

/-- The first text is taken out, and the second one goes to both footers. -/
theorem process_moves_text :
    ∃ m, parse .standard "X\n\nA: x\n\nB: y".toList = .ok m ∧
      ∃ p, m.process (.ofEntries .lax forbiddenText) true none = .ok p ∧
        m.footers.map Footer.plain = ["A: x".toList, "B: y".toList] ∧
        p.message.footers.map Footer.plain = ["A: y".toList, "B: y".toList] ∧
        trackAll (configuredRules .lax forbiddenText) (m.footers.map Footer.text) =
          [⟨some 1, "y".toList⟩] ∧
        ¬InPlace m.footers.length
          (trackAll (configuredRules .lax forbiddenText) (m.footers.map Footer.text)) := by
  obtain ⟨m, hm, p, hp, hbefore, hafter, hleft, hlength⟩ :
      ∃ m, parse .standard "X\n\nA: x\n\nB: y".toList = .ok m ∧
        ∃ p, m.process (.ofEntries .lax forbiddenText) true none = .ok p ∧
          m.footers.map Footer.plain = ["A: x".toList, "B: y".toList] ∧
          p.message.footers.map Footer.plain = ["A: y".toList, "B: y".toList] ∧
          trackAll (configuredRules .lax forbiddenText) (m.footers.map Footer.text) =
            [⟨some 1, "y".toList⟩] ∧ m.footers.length = 2 :=
    ⟨_, rfl, _, rfl, by decide +kernel, by decide +kernel, by decide +kernel, by decide +kernel⟩
  refine ⟨m, hm, p, hp, hbefore, hafter, hleft, fun hplace => ?_⟩
  have horigin := hplace 0 (by omega) ⟨some 1, "y".toList⟩ (by rw [hleft]; rfl)
  exact absurd (Option.some.inj horigin) (by decide)

end Message

end CommitStandard
