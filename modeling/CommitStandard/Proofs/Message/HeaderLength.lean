import Mathlib.Tactic
import CommitStandard.Proofs.Header.Cutting
import CommitStandard.Proofs.Message.Stages
import CommitStandard.Proofs.Message.Unrepaired
import CommitStandard.Proofs.Rule.Standard

/-!
# The limit of the header

A rule that limits the length of the header cuts the line, and the line is read again.
The limit is therefore exceeded where the cut line is written with a space that it did
not have: by one character, and by two at most where the header reads as another one
(`process_headerLimit`). The message is valid all the same. Only a limit that cannot be
written leaves a longer line as it is, and then the message is not valid.
-/
namespace CommitStandard

variable {c : Coercions}

/-- The rule that a header may not be longer than a number of characters. -/
def headerLimit (limit : Nat) : Entries :=
  [("header-max-length".toList, .list [.int 2, .text "always".toList, .int limit])]

theorem rules_headerLimit (c : Coercions) (limit : Nat) :
    (Engine.ofRules c (headerLimit limit)).rules =
      [("header-max-length".toList, Rule.strict Part.header.name .always (.maxLength limit))] := by
  have hsplit : splitRuleId? "header-max-length".toList = some (.header, .maxLength) := by decide
  have hsetting : Setting.ofEntry? c (.given (.list [.int 2, .text "always".toList, .int limit])) =
      some ⟨.error, .always, .int limit⟩ :=
    Setting.ofEntry?_entry c .always (some (.int limit))
  have hvalue : Constraint.ofValue? .maxLength (.int limit) =
      some (.each (.maxLength limit)) := by
    simp [Constraint.ofValue?, Constraint.count?]
  have hrule : createRule? c "header-max-length".toList
      (.given (.list [.int 2, .text "always".toList, .int limit])) =
        some (Rule.strict Part.header.name .always (.maxLength limit)) := by
    simp only [createRule?, hsplit, hsetting, Option.bind_eq_bind, Option.bind_some, hvalue]
    rfl
  simp only [Engine.ofRules, headerLimit, Engine.ofEntries, List.map_cons, List.map_nil,
    List.filterMap_cons, hrule, Option.map_some, List.filterMap_nil]

theorem rules_forPart_headerLimit (c : Coercions) (limit : Nat) (part : Part) :
    ((Engine.ofRules c (headerLimit limit)).forPart part).rules.map Prod.snd =
      if part = .header then
        [(Applicability.always, Test.maxLength limit)].map fun t => Rule.strict part.name t.1 t.2
      else [] := by
  rw [Engine.forPart, Engine.narrow, rules_headerLimit]
  cases part <;> rfl

/-- The rule leaves a line as long as it may be, or cuts it to that length. -/
theorem leaveAll?_maxLength (limit : Nat) (s : Text) :
    leaveAll? true [(.always, .maxLength limit)] s = some (Text.cutTo limit s) := by
  have hmet : ∀ t : Text, t.length ≤ limit → (Test.maxLength limit).met .always t = true := by
    intro t ht
    simpa [Test.met, Test.holds] using ht
  have hone : (Test.maxLength limit).leave? true .always s = some (Text.cutTo limit s) := by
    unfold Test.leave?
    by_cases hs : s.length ≤ limit
    · rw [if_pos (hmet s hs), Text.cutTo, if_pos hs]
    · have hnot : ¬(Test.maxLength limit).met .always s = true := by
        simpa [Test.met, Test.holds] using hs
      have hcut : Text.truncate s limit = Text.cutTo limit s := rfl
      rw [if_neg hnot, if_pos rfl]
      simp only [Test.repair?, hcut, if_pos (hmet _ (Text.length_cutTo_le limit s))]
  rw [leaveAll?, hone]
  rfl

namespace Message

variable {options : HeaderOptions} {s : Text} {m : Message}

/-- A line is evaluated to one that is no longer than the limit, and otherwise to an error where
the limit cannot be written. -/
theorem exists_evaluate?_headerLimit (c : Coercions) (limit : Nat) (files : Option ChangedFiles)
    (line : Text) : ∃ e, Run.evaluate? ⟨true, files⟩ (.ofRules c (headerLimit limit)) .header
        [line] = some e ∧
      if limit < Text.unwritable ∨ line.length ≤ limit then
        e.errors.isEmpty = true ∧ e.firstValue = Text.cutTo limit line
      else e.errors.isEmpty = false ∧ e.firstValue = line := by
  have hrules := rules_forPart_headerLimit c limit .header
  by_cases hw : (Test.maxLength limit).IsWorded
  · have hlimit : limit < Text.unwritable := hw limit rfl
    obtain ⟨e, he, herrors, hleft⟩ := @evaluate?_strict ⟨true, files⟩ _ .header
      [(.always, .maxLength limit)] hrules (by simp) (by simpa using hw) line
    rw [leaveAll?_maxLength] at herrors
    refine ⟨e, he, ?_⟩
    rw [if_pos (Or.inl hlimit)]
    exact ⟨herrors, hleft _ (leaveAll?_maxLength limit line)⟩
  · have hlimit : ¬limit < Text.unwritable := fun hlt => hw fun l hl => Option.some.inj hl ▸ hlt
    let r := Rule.strict Part.header.name .always (.maxLength limit)
    have hevaluate : Run.evaluate? ⟨true, files⟩ (.ofRules c (headerLimit limit)) .header [line] =
        some (Engine.step true files ⟨[line], .none, .none⟩ r) := by
      have hsome : ((Engine.ofRules c (headerLimit limit)).forPart .header).isEmpty = false := by
        rw [Engine.isEmpty, List.isEmpty_eq_false_iff]
        intro hnone
        rw [hnone] at hrules
        cases hrules
      rw [Run.evaluate?, hsome, Engine.evaluate, hrules]
      rfl
    have hmet : (Test.maxLength limit).met .always line = true ↔ line.length ≤ limit := by
      simp [Test.met, Test.holds]
    refine ⟨_, hevaluate, ?_⟩
    by_cases hfits : line.length ≤ limit
    · rw [if_pos (Or.inr hfits), Engine.step, check_of_met (hmet.mpr hfits), Text.cutTo,
        if_pos hfits]
      exact ⟨rfl, rfl⟩
    · rw [if_neg (by tauto), Engine.step, check_of_not_isWorded hw (mt hmet.mp hfits)]
      exact ⟨rfl, rfl⟩

/-- Under a limit of the header only the header line is evaluated, and the header is read from what
the evaluation leaves. -/
theorem exists_process_headerLimit (m : Message) {limit : Nat} {files : Option ChangedFiles}
    {e : Evaluation} (he : Run.evaluate? ⟨true, files⟩ (.ofRules c (headerLimit limit)) .header
      [m.header.render] = some e)
    {k : Header} (hk : Header.parse m.header.options e.firstValue = .ok k) :
    ∃ p, m.process (.ofRules c (headerLimit limit)) true files = .ok p ∧
      p.valid = e.errors.isEmpty ∧
      p.message.header =
        if e.firstValue = m.header.render then m.header
        else { k with styles := m.header.styles } := by
  have hidle : ∀ part, part ≠ .header →
      ((Engine.ofRules c (headerLimit limit)).forPart part).rules = [] := by
    intro part hpart
    have hrules := rules_forPart_headerLimit c limit part
    rw [if_neg hpart] at hrules
    exact List.map_eq_nil_iff.mp hrules
  have hheader : processHeader ⟨true, files⟩ (.ofRules c (headerLimit limit)) m.header =
      .ok (if e.firstValue = m.header.render then m.header
        else { k with styles := m.header.styles }, (Report.ofEvaluation? .header e).toList) := by
    rw [processHeader, he]
    dsimp only
    split
    · rfl
    · rw [hk]
      rfl
  have hfields : processFields ⟨true, files⟩ (.ofRules c (headerLimit limit)) m.header
      HeaderField.all = (m.header, []) :=
    processFields_eq_self (fun field _ => hidle _ (by cases field <;> decide)) m.header
  have hbody : processBody ⟨true, files⟩ (.ofRules c (headerLimit limit)) m.body = (m.body, []) :=
    processBody_eq_self (hidle _ (by decide)) m.body
  have htexts : ∀ fs, processTexts ⟨true, files⟩ (.ofRules c (headerLimit limit)) fs = (fs, []) :=
    processTexts_eq_self (hidle _ (by decide))
  have htokens : ∀ fs, processTokens ⟨true, files⟩ (.ofRules c (headerLimit limit)) fs = (fs, []) :=
    processTokens_eq_self (hidle _ (by decide))
  have hlines : ∀ fs, processLines ⟨true, files⟩ (.ofRules c (headerLimit limit)) fs = (fs, []) :=
    processLines_eq_self (hidle _ (by decide))
  unfold process
  simp only [hfields, hheader, hbody, htexts, htokens, hlines, bind, Except.bind]
  refine ⟨_, rfl, ?_, rfl⟩
  simp only [List.nil_append, List.append_nil, Report.all_ofEvaluation?]

/-- A header is never more than two characters longer than its limit. If it is read back from its
line, it exceeds the limit exactly where the line is cut at the end of a head. All of this is so
unless the limit cannot be written and the line is longer; then the header stays, and the message
is not valid. -/
theorem process_headerLimit (c : Coercions) (hd : options.scopeDelimiter ≠ [])
    (hm : parse options s = .ok m) (limit : Nat) (files : Option ChangedFiles) :
    ∃ p, m.process (.ofRules c (headerLimit limit)) true files = .ok p ∧
      if limit < Text.unwritable ∨ m.header.render.length ≤ limit then
        p.valid = true ∧ p.message.header.render.length ≤ limit + 2 ∧
          ∀ h : Header, h.Legible → h.options = options → h.line = m.header.render →
            (p.message.header.render.length ≤ limit ↔ ∀ t ∈ h.heads, t.length ≠ limit)
      else p.valid = false ∧ p.message.header = m.header := by
  obtain ⟨header, body, footers, hheader, rfl, -⟩ := eq_make_of_parse hm
  obtain ⟨ns, type, scopes, subject, breaking, rfl, -⟩ := Header.eq_make_of_parse hheader
  let g := Header.make options ns type scopes subject breaking
  have hrender : ∀ k : Header, ({ k with styles := g.styles } : Header).render = k.line := by
    intro k
    rw [Header.render_eq_line fun _ _ => rfl]
    rfl
  have hline : g.render = g.line := hrender g
  obtain ⟨e, he, heval⟩ := exists_evaluate?_headerLimit c limit files g.render
  obtain ⟨k, hk⟩ : ∃ k, Header.parse options e.firstValue = .ok k :=
    Header.exists_parse_iff.mpr fun h0 => absurd h0 hd
  obtain ⟨p, hp, hvalid, hkept⟩ := exists_process_headerLimit (make g body footers) he hk
  refine ⟨p, hp, ?_⟩
  change if limit < Text.unwritable ∨ g.render.length ≤ limit then _ else _
  split
  case isFalse hlong =>
    obtain ⟨herrors, hvalue⟩ := (if_neg hlong).mp heval
    exact ⟨hvalid.trans herrors, hkept.trans (if_pos hvalue)⟩
  case isTrue hshort =>
  obtain ⟨herrors, hvalue⟩ := (if_pos hshort).mp heval
  rw [hvalue] at hk hkept
  have hwidth := Text.length_cutTo_le limit g.render
  change p.message.header = if Text.cutTo limit g.render = g.render then g
    else { k with styles := g.styles } at hkept
  refine ⟨hvalid.trans herrors, ?_, fun h hl ho hwritten => ?_⟩
  · rw [hkept]
    split
    · rename_i hsame
      rw [hsame] at hwidth
      omega
    · have hlength := Header.length_line_of_parse_le hk
      have hspaces := Header.addedSpaces_le (Text.strip (Text.cutTo limit g.render))
      have hstrip := Text.length_strip_le (Text.cutTo limit g.render)
      rw [hrender]
      omega
  · have hcomma : options.scopeDelimiter = [','] := ho ▸ hl.delimiter
    change h.line = g.render at hwritten
    rw [← hwritten] at hk hkept
    rw [← Header.length_line_of_parse_cutTo hl hcomma hk]
    have hlength : p.message.header.render = k.line := by
      rw [hkept]
      split
      · rename_i hsame
        rw [hsame, Header.parse_line hl hcomma, Except.ok.injEq] at hk
        rw [← hk, Header.line_withOptions (hcomma.trans hl.delimiter.symm), hwritten]
      · exact hrender k
    rw [hlength]

/-- A limit that cuts inside of the subject is kept. -/
theorem process_headerLimit_addParser :
    ∃ m p, parse .standard "feat: Add parser".toList = .ok m ∧
      m.process (.ofRules .lax (headerLimit 9)) true none = .ok p ∧ p.valid = true ∧
      p.message.header.render.length ≤ 9 := by
  have hm : parse .standard "feat: Add parser".toList =
      .ok (make (.make .standard [] "feat".toList [] "Add parser".toList false) [] []) := rfl
  have hlimit : 9 < Text.unwritable := (by decide : (Test.maxLength 9).IsWorded) 9 rfl
  obtain ⟨p, hp, hcut⟩ := process_headerLimit .lax (by decide) hm 9 none
  obtain ⟨hvalid, -, hiff⟩ := (if_pos (Or.inl hlimit)).mp hcut
  have hheader : Header.parse .standard "feat: Add parser".toList =
      .ok (.make .standard [] "feat".toList [] "Add parser".toList false) := rfl
  have htidy := (Header.tidy_of_parse rfl (by decide) hheader).1
  refine ⟨_, p, hm, hp, hvalid, ?_⟩
  refine (hiff _ (Header.legible_of_isLabelled htidy rfl) rfl rfl).mpr ?_
  decide

/-- A line that is cut after the colon is written with a space again, beyond the limit. -/
theorem process_headerLimit_cutAtColon :
    ∃ m p, parse .standard "feat: Add".toList = .ok m ∧
      m.process (.ofRules .lax (headerLimit 5)) true none = .ok p ∧ p.valid = true ∧
      p.message.header.render = "feat: ".toList ∧ p.message.header.render.length = 6 :=
  ⟨make (.make .standard [] "feat".toList [] "Add".toList false) [] [], _, rfl, rfl, rfl, rfl, rfl⟩

end Message

end CommitStandard
