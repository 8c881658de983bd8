import Mathlib.Tactic
import CommitStandard.Message.Process
import CommitStandard.Proofs.Engine.Configured
import CommitStandard.Proofs.Message.Stability

/-!
# Rules of different parts

An identifier names one part before its first hyphen, so that the rules of a
configured engine fall into the rules of the nine parts, and those of a part are
configured by the entries that name it (`forPart_ofEntries_eq`). Processing looks at
the rules of one part at a time (`process_congr`). Entries of different parts can
therefore be listed in any order (`process_interleaved`).
-/
namespace CommitStandard

variable {c : Coercions}

/-- The part that an identifier names before its first hyphen. -/
def Part.ofRuleId? (id : Text) : Option Part := Part.ofName? (id.takeWhile (· ≠ '-'))

/-- The entries about a part, in their order. -/
def entriesOf (part : Part) (entries : List (Text × Entry)) : List (Text × Entry) :=
  entries.filter fun entry => Part.ofRuleId? entry.1 = some part

theorem Part.ofRuleId?_append (part : Part) (rest : Text) :
    Part.ofRuleId? (part.name ++ '-' :: rest) = some part := by
  have hname : ∀ d ∈ part.name, decide (d ≠ '-') = true := fun d hd =>
    decide_eq_true fun he => part.hyphen_notMem_name (he ▸ hd)
  rw [ofRuleId?, List.takeWhile_append_of_pos hname]
  simp [Part.ofName?_name]

theorem Part.ofRuleId?_of_createRule? {id : Text} {entry : Entry} {r : Rule}
    (h : createRule? c id entry = some r) : ∃ part, Part.ofRuleId? id = some part ∧
      r.part = part.name := by
  obtain ⟨part, kind, setting, constraint, rfl, -, -, rfl⟩ := exists_of_createRule? h
  exact ⟨part, ofRuleId?_append part kind.name, rfl⟩

/-- The rules of a part are those that the entries about it configure. -/
theorem forPart_ofEntries_eq (entries : List (Text × Entry)) (part : Part) :
    (Engine.ofEntries c entries).forPart part = Engine.ofEntries c (entriesOf part entries) := by
  have hrules : ((Engine.ofEntries c entries).forPart part).rules =
      (Engine.ofEntries c (entriesOf part entries)).rules := by
    rw [forPart_ofEntries, Engine.ofEntries, Engine.ofEntries, entriesOf, List.filter_filterMap,
      List.filterMap_filter]
    refine List.filterMap_congr fun entry _ => ?_
    cases hr : createRule? c entry.1 entry.2 with
    | none => simp [hr]
    | some r =>
      obtain ⟨p, hid, hp⟩ := Part.ofRuleId?_of_createRule? hr
      by_cases hpart : p = part
      · simp [hr, hid, hp, hpart]
      · simp [hr, hid, hp, hpart, Part.name_injective.ne hpart]
  exact congrArg Engine.mk hrules

/-- Every rule of a configured engine is a rule of one part and of no other. -/
theorem existsUnique_forPart {entries : List (Text × Entry)} {rule : Text × Rule}
    (h : rule ∈ (Engine.ofEntries c entries).rules) :
    ∃! part : Part, rule ∈ ((Engine.ofEntries c entries).forPart part).rules := by
  obtain ⟨part, hpart, -⟩ := (isCreated_of_mem_ofEntries h).part
  refine ⟨part, ?_, fun other hother => ?_⟩
  · dsimp only
    rw [forPart_ofEntries]
    exact List.mem_filter.mpr ⟨h, decide_eq_true hpart⟩
  · dsimp only at hother
    rw [forPart_ofEntries] at hother
    have hname := of_decide_eq_true (List.mem_filter.mp hother).2
    exact Part.name_injective (hname.symm.trans hpart)

namespace Message

section Congruence

variable {e other : Engine} (h : ∀ part, e.forPart part = other.forPart part)

include h

theorem evaluate?_congr (run : Run) (part : Part) (values : List Text) :
    run.evaluate? e part values = run.evaluate? other part values := by
  rw [Run.evaluate?, Run.evaluate?, h]

theorem processField_congr (run : Run) (k : Header) (field : HeaderField) :
    processField run e k field = processField run other k field := by
  rw [processField, processField, evaluate?_congr h]

theorem processFields_congr (run : Run) (k : Header) (fields : List HeaderField) :
    processFields run e k fields = processFields run other k fields := by
  induction fields generalizing k with
  | nil => rfl
  | cons field fields ih => simp only [processFields, processField_congr h, ih]

theorem processHeader_congr (run : Run) (k : Header) :
    processHeader run e k = processHeader run other k := by
  rw [processHeader, processHeader, evaluate?_congr h]

theorem processBody_congr (run : Run) (body : Text) :
    processBody run e body = processBody run other body := by
  rw [processBody, processBody, evaluate?_congr h]

theorem processTexts_congr (run : Run) (footers : List Footer) :
    processTexts run e footers = processTexts run other footers := by
  rw [processTexts, processTexts, evaluate?_congr h]

theorem processTokens_congr (run : Run) (footers : List Footer) :
    processTokens run e footers = processTokens run other footers := by
  rw [processTokens, processTokens, evaluate?_congr h]

theorem processLines_congr (run : Run) (footers : List Footer) :
    processLines run e footers = processLines run other footers := by
  rw [processLines, processLines, evaluate?_congr h]

/-- Processing looks at the rules of each part, and not at how they are mixed. -/
theorem process_congr (m : Message) (attemptFix : Bool) (files : Option ChangedFiles) :
    m.process e attemptFix files = m.process other attemptFix files := by
  simp only [process, processFields_congr h, processHeader_congr h, processBody_congr h,
    processTexts_congr h, processTokens_congr h, processLines_congr h]

end Congruence

/-- Every rule of a configured engine is a rule of exactly one part, and entries whose order is the
same within each part configure engines that process every message alike. Nothing is asked of
entries that name no part, because they configure no rule. -/
theorem process_interleaved (entries : List (Text × Entry)) :
    (∀ rule ∈ (Engine.ofEntries c entries).rules,
      ∃! part : Part, rule ∈ ((Engine.ofEntries c entries).forPart part).rules) ∧
    ∀ others : List (Text × Entry), (∀ part, entriesOf part others = entriesOf part entries) →
      ∀ (m : Message) (attemptFix : Bool) (files : Option ChangedFiles),
        m.process (.ofEntries c others) attemptFix files =
          m.process (.ofEntries c entries) attemptFix files := by
  refine ⟨fun rule => existsUnique_forPart, fun others horder m attemptFix files => ?_⟩
  refine process_congr (fun part => ?_) m attemptFix files
  rw [forPart_ofEntries_eq, forPart_ofEntries_eq, horder]

def entryOf (part : Part) (kind : Kind) (items : List Value) : Text × Entry :=
  (part.name ++ '-' :: kind.name, .given (.list items))

/-- Two rules on the subject, and one each on the texts, the tokens and the lines of footers. -/
def mixedEntries : List (Text × Entry) :=
  [entryOf .trailer .presence [.int 2, .text "always".toList, .list [.text "Refs".toList]],
    entryOf .subject .fullStop [.int 2, .text "never".toList],
    entryOf .footers .maxLength [.int 1, .text "always".toList, .int 40],
    entryOf .subject .minLength [.int 2, .text "always".toList, .int 5],
    entryOf .footer .empty [.int 1, .text "never".toList]]

/-- The same entries part by part. -/
def sortedEntries : List (Text × Entry) :=
  [entryOf .subject .fullStop [.int 2, .text "never".toList],
    entryOf .subject .minLength [.int 2, .text "always".toList, .int 5],
    entryOf .footer .empty [.int 1, .text "never".toList],
    entryOf .footers .maxLength [.int 1, .text "always".toList, .int 40],
    entryOf .trailer .presence [.int 2, .text "always".toList, .list [.text "Refs".toList]]]

/-- Entries that are sorted by their parts configure the rules in another order. -/
theorem process_interleaved_sortedEntries :
    (∀ part, entriesOf part sortedEntries = entriesOf part mixedEntries) ∧
      (Engine.ofEntries .lax sortedEntries).ids ≠ (Engine.ofEntries .lax mixedEntries).ids ∧
      ∃ m, parse .standard "Add.\n\nReviewed-by: R".toList = .ok m ∧
        m.process (.ofEntries .lax sortedEntries) true none =
          m.process (.ofEntries .lax mixedEntries) true none := by
  have horder : ∀ part, entriesOf part sortedEntries = entriesOf part mixedEntries := by
    intro part
    cases part <;>
      simp [entriesOf, sortedEntries, mixedEntries, entryOf, Part.ofRuleId?_append]
  have hids :
      (Engine.ofEntries .lax sortedEntries).ids ≠ (Engine.ofEntries .lax mixedEntries).ids := by
    decide +kernel
  obtain ⟨m, hm⟩ := exists_parse "Add.\n\nReviewed-by: R".toList
  exact ⟨horder, hids, m, hm, (process_interleaved mixedEntries).2 sortedEntries horder m true none⟩

end Message

end CommitStandard
