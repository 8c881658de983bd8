import Mathlib.Tactic
import CommitStandard.Proofs.Message.Stability
import CommitStandard.Proofs.Message.Stages
import CommitStandard.Message.Process

/-!
# Repairing trailers

Rules about trailers look at the bare tokens of the footers, and the footers are
made anew from the tokens that are left. `KeepsFooters` is what that should
preserve: the footers that are wanted stay with their texts, and those that are
added have none. It holds if the tokens are not fewer in their normal spelling
and, where there are as many tokens as footers, if the footers up to the last one
with a text get the tokens that they have (`process_keeps_iff`).
-/
namespace CommitStandard.Message

def tokenCount (t : Text) (fs : List Footer) : Nat := fs.countP fun f => f.token == t

section Counting

variable {t : Text} {f : Footer} {fs gs : List Footer}

@[simp] theorem tokenCount_nil : tokenCount t [] = 0 := rfl

theorem tokenCount_cons :
    tokenCount t (f :: fs) = tokenCount t fs + if f.token = t then 1 else 0 := by
  simp [tokenCount, List.countP_cons]

@[simp] theorem tokenCount_append : tokenCount t (fs ++ gs) = tokenCount t fs + tokenCount t gs :=
  List.countP_append

theorem tokenCount_le_of_sublist (h : fs.Sublist gs) : tokenCount t fs ≤ tokenCount t gs :=
  h.countP_le

theorem length_le_tokenCount (h : ∀ g ∈ fs, g.token = t) : fs.length ≤ tokenCount t fs := by
  rw [tokenCount, List.countP_eq_length.mpr fun g hg => by simpa using h g hg]

end Counting

/-- Wanted footers stay in order, each token as often as it is wanted and there. -/
theorem keepWanted_spec (wanted : List Text) (fs : List Footer) :
    (keepWanted wanted fs).1.Sublist fs ∧ ∀ t,
      tokenCount t (keepWanted wanted fs).1 = min (tokenCount t fs) (wanted.count t) ∧
      (keepWanted wanted fs).2.count t + tokenCount t (keepWanted wanted fs).1 =
        wanted.count t := by
  induction fs generalizing wanted with
  | nil => exact ⟨List.Sublist.refl [], fun t => by simp [keepWanted]⟩
  | cons f fs ih =>
    rw [keepWanted]
    by_cases hf : f.token ∈ wanted
    · obtain ⟨hsub, hcount⟩ := ih (wanted.erase f.token)
      rw [if_pos (by simpa using hf)]
      refine ⟨hsub.cons_cons f, fun t => ?_⟩
      obtain ⟨hkept, hleft⟩ := hcount t
      have hpos := List.count_pos_iff.mpr hf
      rw [List.count_erase] at hkept hleft
      simp only [tokenCount_cons]
      by_cases ht : f.token = t
      · subst ht
        simp only [beq_self_eq_true, if_true] at hkept hleft ⊢
        omega
      · have hne : (f.token == t) = false := by simpa using ht
        simp only [hne, Bool.false_eq_true, if_false, if_neg ht] at hkept hleft ⊢
        omega
    · obtain ⟨hsub, hcount⟩ := ih wanted
      rw [if_neg (by simpa using hf)]
      refine ⟨hsub.cons f, fun t => ?_⟩
      obtain ⟨hkept, hleft⟩ := hcount t
      refine ⟨?_, hleft⟩
      rw [hkept, tokenCount_cons]
      by_cases ht : f.token = t
      · subst ht
        have hzero := List.count_eq_zero.mpr hf
        omega
      · rw [if_neg ht, Nat.add_zero]

/-- New footers have no text and stand for wanted tokens. -/
theorem newFooters_spec (wanted tokens : List Text) :
    (∀ f ∈ newFooters wanted tokens, f.text = []) ∧
      ∀ t, tokenCount t (newFooters wanted tokens) ≤ wanted.count t := by
  induction tokens generalizing wanted with
  | nil => simp [newFooters]
  | cons token tokens ih =>
    rw [newFooters]
    by_cases hw : Footer.normalizeToken token ∈ wanted
    · obtain ⟨htext, hcount⟩ := ih (wanted.erase (Footer.normalizeToken token))
      rw [if_pos (by simpa using hw)]
      refine ⟨?_, fun t => ?_⟩
      · intro f hf
        rcases List.mem_cons.mp hf with rfl | hf
        · rfl
        · exact htext f hf
      · have hle := hcount t
        have hpos := List.count_pos_iff.mpr hw
        have htoken : (Footer.make token []).token = Footer.normalizeToken token := rfl
        rw [List.count_erase] at hle
        rw [tokenCount_cons, htoken]
        by_cases ht : Footer.normalizeToken token = t
        · subst ht
          simp only [beq_self_eq_true, if_true] at hle ⊢
          omega
        · have hne : (Footer.normalizeToken token == t) = false := by simpa using ht
          simp only [hne, Bool.false_eq_true, if_false, if_neg ht] at hle ⊢
          omega
    · rw [if_neg (by simpa using hw)]
      exact ih wanted

/-- What repairing trailers should preserve: footers stay as they are, up to added ones without a
text, and each footer whose token is still wanted is among them. -/
structure KeepsFooters (fs : List Footer) (tokens : List Text) (rs : List Footer) : Prop where
  parts : ∃ kept added, rs = kept ++ added ∧ kept.Sublist fs ∧ ∀ f ∈ added, f.text = []
  wanted : ∀ t, ∃ same : List Footer, same.Sublist fs ∧ same.Sublist rs ∧
    (∀ f ∈ same, f.token = t) ∧ same.length = min (tokenCount t fs) (tokens.count t)

/-- The footers up to the last one with a text. -/
def uptoText (fs : List Footer) : List Footer := fs.rdropWhile fun f => f.text.isEmpty

section Keeping

variable {fs rs kept added common : List Footer} {tokens : List Text}

/-- Footers in common give as many footers with a token as they have. -/
theorem exists_same (hf : common.Sublist fs) (hr : common.Sublist rs) {t : Text} {n : Nat}
    (hn : n ≤ tokenCount t common) :
    ∃ same : List Footer, same.Sublist fs ∧ same.Sublist rs ∧ (∀ f ∈ same, f.token = t) ∧
      same.length = n := by
  have hsub : ((common.filter fun f => f.token == t).take n).Sublist common :=
    (List.take_sublist _ _).trans List.filter_sublist
  refine ⟨_, hsub.trans hf, hsub.trans hr, ?_, ?_⟩
  · intro f hmem
    simpa using (List.mem_filter.mp (List.mem_of_mem_take hmem)).2
  · rw [tokenCount, List.countP_eq_length_filter] at hn
    rw [List.length_take]
    omega

theorem KeepsFooters.le_tokenCount (h : KeepsFooters fs tokens rs) (t : Text) :
    min (tokenCount t fs) (tokens.count t) ≤ tokenCount t rs := by
  obtain ⟨same, -, hr, ht, hlen⟩ := h.wanted t
  rw [← hlen]
  exact (length_le_tokenCount ht).trans (tokenCount_le_of_sublist hr)

/-- Kept footers and new ones: only the numbers of the tokens matter. -/
theorem keeps_append_iff (hk : kept.Sublist fs) (ha : ∀ f ∈ added, f.text = [])
    (hc : ∀ t, min (tokenCount t fs) (tokenCount t (kept ++ added)) ≤ tokenCount t kept) :
    KeepsFooters fs tokens (kept ++ added) ↔
      ∀ t, min (tokenCount t fs) (tokens.count t) ≤ tokenCount t (kept ++ added) := by
  constructor
  · exact fun h t => h.le_tokenCount t
  · intro h
    refine ⟨⟨kept, added, rfl, hk, ha⟩, fun t => ?_⟩
    have hle := h t
    have hkept := hc t
    exact exists_same hk (List.sublist_append_left kept added) (by omega)

theorem eq_uptoText_append (fs : List Footer) :
    ∃ back, fs = uptoText fs ++ back ∧ ∀ f ∈ back, f.text = [] := by
  refine ⟨fs.rtakeWhile fun f => f.text.isEmpty, ?_, ?_⟩
  · rw [uptoText, List.rdropWhile_append_rtakeWhile]
  · intro f hf
    simpa using List.mem_rtakeWhile_imp hf

/-- Footers that kept their places kept their tokens up to the last text. -/
theorem uptoText_isPrefix (ht : rs.map Footer.text = fs.map Footer.text) (hr : rs = kept ++ added)
    (hk : kept.Sublist fs) (ha : ∀ f ∈ added, f.text = []) : uptoText fs <+: rs := by
  obtain ⟨back, hfs, htextless⟩ := eq_uptoText_append fs
  obtain ⟨front, hfront⟩ : ∃ front, uptoText fs = front := ⟨_, rfl⟩
  rw [hfront] at hfs
  rw [hfront]
  rcases List.eq_nil_or_concat front with rfl | ⟨init, last, hlast⟩
  · exact List.nil_prefix
  rw [List.concat_eq_append] at hlast
  have hlastText : last.text ≠ [] := by
    have hcat : fs.rdropWhile (fun f => f.text.isEmpty) = init ++ [last] := hlast ▸ hfront
    have hne : fs.rdropWhile (fun f => f.text.isEmpty) ≠ [] := by simp [hcat]
    have hnot := List.rdropWhile_last_not (fun f : Footer => f.text.isEmpty) fs hne
    have heq : (fs.rdropWhile fun f => f.text.isEmpty).getLast hne = last := by simp [hcat]
    rw [heq] at hnot
    simpa using hnot
  -- The footer in the place of the last text is a kept one.
  obtain ⟨g, hg, hgt⟩ : ∃ g, rs[init.length]? = some g ∧ g.text ≠ [] := by
    have hplace := congrArg (fun ts => ts[init.length]?) ht
    simp only [List.getElem?_map, hfs, hlast] at hplace
    rw [List.append_assoc, List.getElem?_append_right le_rfl] at hplace
    simp only [Nat.sub_self, List.singleton_append, List.getElem?_cons_zero, Option.map_some]
      at hplace
    obtain ⟨g, hg, hgt⟩ := Option.map_eq_some_iff.mp hplace
    exact ⟨g, hg, hgt ▸ hlastText⟩
  have hlt : init.length < kept.length := by
    by_contra hge
    rw [hr, List.getElem?_append_right (by omega)] at hg
    exact hgt (ha g (List.mem_of_getElem? hg))
  have hlen : (kept.take (init.length + 1)).length = front.length := by
    rw [List.length_take, hlast, List.length_append, List.length_singleton]
    omega
  have hend : (kept.take (init.length + 1)).getLast? = some g := by
    rw [hr, List.getElem?_append_left hlt] at hg
    rw [List.getLast?_take, if_neg (by omega), Nat.add_sub_cancel, hg]
    rfl
  have hsub : (kept.take (init.length + 1)).Sublist (front ++ back) :=
    hfs ▸ (List.take_sublist _ kept).trans hk
  obtain ⟨a, b, hab, hafront, hbback⟩ := List.sublist_append_iff.mp hsub
  have hb : b = [] := by
    by_contra hb
    rw [hab, List.getLast?_append_of_ne_nil _ hb] at hend
    exact hgt (htextless g (hbback.subset (List.mem_of_getLast? hend)))
  rw [hb, List.append_nil] at hab
  have hsame : a = front := hafront.eq_of_length (hab ▸ hlen)
  rw [← hsame, ← hab, hr]
  exact (List.take_prefix _ kept).trans (List.prefix_append kept added)

def bare (t : Text) : Footer := ⟨t, [], .plain⟩

theorem tokenCount_replicate (t : Text) (n : Nat) :
    tokenCount t (List.replicate n (bare t)) = n := by
  rw [tokenCount, List.countP_replicate, if_pos (by simp [bare])]

/-- Footers without a text that have a token are alike. -/
theorem replicate_bare_sublist (hp : ∀ f ∈ fs, f.style = .plain) (ht : ∀ f ∈ fs, f.text = [])
    {t : Text} {n : Nat} (hn : n ≤ tokenCount t fs) : (List.replicate n (bare t)).Sublist fs := by
  have hsame : fs.filter (fun f => f.token == t) = List.replicate (tokenCount t fs) (bare t) := by
    rw [List.eq_replicate_iff, tokenCount, List.countP_eq_length_filter]
    refine ⟨rfl, fun f hf => ?_⟩
    obtain ⟨hmem, htoken⟩ := List.mem_filter.mp hf
    rw [bare, ← ht f hmem, ← hp f hmem, ← eq_of_beq htoken]
  have hle : (List.replicate n (bare t)).Sublist (List.replicate (tokenCount t fs) (bare t)) :=
    (List.replicate_sublist_replicate _).mpr hn
  exact hle.trans (hsame ▸ List.filter_sublist)

/-- Footers in their places: they have to stay as they are up to the last one with a text. -/
theorem keeps_iff_of_texts (ht : rs.map Footer.text = fs.map Footer.text)
    (hf : ∀ f ∈ fs, f.style = .plain) (hr : ∀ f ∈ rs, f.style = .plain) :
    KeepsFooters fs tokens rs ↔
      (∀ t, min (tokenCount t fs) (tokens.count t) ≤ tokenCount t rs) ∧ uptoText fs <+: rs := by
  constructor
  · intro h
    obtain ⟨kept, added, hrs, hk, ha⟩ := h.parts
    exact ⟨h.le_tokenCount, uptoText_isPrefix ht hrs hk ha⟩
  · rintro ⟨hcount, rest, hrs⟩
    obtain ⟨back, hfs, hback⟩ := eq_uptoText_append fs
    obtain ⟨front, hfront⟩ : ∃ front, uptoText fs = front := ⟨_, rfl⟩
    rw [hfront] at hrs hfs
    have hrest : ∀ f ∈ rest, f.text = [] := by
      intro f hmem
      rw [← hrs, hfs, List.map_append, List.map_append, List.append_cancel_left_eq] at ht
      have htext : f.text ∈ back.map Footer.text := ht ▸ List.mem_map_of_mem hmem
      obtain ⟨g, hg, hgt⟩ := List.mem_map.mp htext
      rw [← hgt, hback g hg]
    have hsub : front.Sublist fs := hfs ▸ List.sublist_append_left front back
    refine ⟨⟨front, rest, hrs.symm, hsub, hrest⟩, fun t => ?_⟩
    -- Of the footers without a text, those that both sides have of a token are in common.
    obtain ⟨n, hn⟩ : ∃ n, n = min (tokenCount t back) (tokenCount t rest) := ⟨_, rfl⟩
    have hfsub : (front ++ List.replicate n (bare t)).Sublist fs := by
      rw [hfs]
      refine (List.Sublist.refl _).append (replicate_bare_sublist ?_ hback (by omega))
      exact fun f hmem => hf f (hfs ▸ List.mem_append_right _ hmem)
    have hrsub : (front ++ List.replicate n (bare t)).Sublist rs := by
      rw [← hrs]
      refine (List.Sublist.refl _).append (replicate_bare_sublist ?_ hrest (by omega))
      exact fun f hmem => hr f (hrs ▸ List.mem_append_right _ hmem)
    refine exists_same hfsub hrsub ?_
    have hle := hcount t
    rw [← hrs, hfs, tokenCount_append, tokenCount_append] at hle
    rw [hfs, tokenCount_append, tokenCount_append, tokenCount_replicate]
    omega

end Keeping

/-- Setting tokens keeps the texts and the paint. -/
theorem zipWith_setToken {fs : List Footer} {tokens : List Text}
    (h : tokens.length = fs.length) :
    (List.zipWith Footer.setToken fs tokens).map Footer.text = fs.map Footer.text ∧
      ((∀ f ∈ fs, f.style = .plain) →
        ∀ f ∈ List.zipWith Footer.setToken fs tokens, f.style = .plain) := by
  have hset : ∀ (f : Footer) (u : Text), (f.setToken u).text = f.text ∧
      (f.setToken u).style = f.style := by
    intro f u
    unfold Footer.setToken
    split <;> exact ⟨rfl, rfl⟩
  induction fs generalizing tokens with
  | nil => simp
  | cons f fs ih =>
    obtain ⟨u, us, rfl⟩ := List.exists_cons_of_length_eq_add_one h
    obtain ⟨htexts, hstyles⟩ := ih (by simpa using h)
    refine ⟨by rw [List.zipWith_cons_cons, List.map_cons, List.map_cons, htexts, (hset f u).1],
      fun hp g hg => ?_⟩
    rw [List.zipWith_cons_cons] at hg
    rcases List.mem_cons.mp hg with rfl | hg
    · rw [(hset f u).2]
      exact hp f List.mem_cons_self
    · exact hstyles (fun k hk => hp k (List.mem_cons_of_mem f hk)) g hg

/-- When footers made anew from tokens are those that should be there. -/
theorem keeps_retoken_iff {fs : List Footer} (hf : ∀ f ∈ fs, f.style = .plain)
    (tokens : List Text) :
    KeepsFooters fs tokens (retoken fs tokens) ↔
      (∀ t, min (tokenCount t fs) (tokens.count t) ≤ tokenCount t (retoken fs tokens)) ∧
        (tokens.length = fs.length → uptoText fs <+: retoken fs tokens) := by
  by_cases hlen : tokens.length = fs.length
  · obtain ⟨htexts, hstyles⟩ := zipWith_setToken hlen
    have hset : retoken fs tokens = List.zipWith Footer.setToken fs tokens := by
      rw [retoken, if_pos hlen]
    rw [hset, keeps_iff_of_texts htexts hf (hstyles hf)]
    exact and_congr_right fun _ => ⟨fun h _ => h, fun h => h hlen⟩
  · obtain ⟨hkept, hcount⟩ := keepWanted_spec (tokens.map Footer.normalizeToken) fs
    obtain ⟨htexts, hnew⟩ :=
      newFooters_spec (keepWanted (tokens.map Footer.normalizeToken) fs).2 tokens
    have hset : retoken fs tokens = (keepWanted (tokens.map Footer.normalizeToken) fs).1 ++
        newFooters (keepWanted (tokens.map Footer.normalizeToken) fs).2 tokens := by
      rw [retoken, if_neg hlen]
    rw [hset, keeps_append_iff hkept htexts]
    · constructor
      · exact fun h => ⟨h, fun h0 => absurd h0 hlen⟩
      · exact fun h => h.1
    · intro t
      obtain ⟨hk, hl⟩ := hcount t
      have := hnew t
      rw [tokenCount_append]
      omega

section Stages

variable {e : Engine}

/-- Whether every rule of an engine is about the presence or the number of trailers. -/
def OnlyTrailers (ids : List Text) : Prop :=
  ∀ id ∈ ids, id = "trailer-exists".toList ∨ id = "trailer-allow-multiple".toList

instance (ids : List Text) : Decidable (OnlyTrailers ids) :=
  inferInstanceAs (Decidable (∀ id ∈ ids,
    id = "trailer-exists".toList ∨ id = "trailer-allow-multiple".toList))

theorem forPart_of_onlyTrailers (h : OnlyTrailers e.ids) (part : Part) :
    e.forPart part = if part = .trailer then e else ⟨[]⟩ := by
  have hid : ∀ r ∈ e.rules, ([part.name].any fun p => (p ++ ['-']).isPrefixOf r.1) =
      decide (part = .trailer) := by
    intro r hr
    rcases h r.1 (List.mem_map_of_mem hr) with hr | hr <;> rw [hr] <;> cases part <;> decide
  unfold Engine.forPart Engine.narrow
  split
  · rename_i hpart
    have hall : e.rules.filter (fun r => [part.name].any fun p => (p ++ ['-']).isPrefixOf r.1) =
        e.rules := by
      rw [List.filter_eq_self]
      intro r hr
      rw [hid r hr, decide_eq_true hpart]
    exact congrArg Engine.mk hall
  · rename_i hpart
    have hnone : e.rules.filter (fun r => [part.name].any fun p => (p ++ ['-']).isPrefixOf r.1) =
        [] := by
      rw [List.filter_eq_nil_iff]
      intro r hr
      rw [hid r hr, decide_eq_false hpart]
      simp
    exact congrArg Engine.mk hnone

theorem rules_of_onlyTrailers (h : OnlyTrailers e.ids) {part : Part} (hp : part ≠ .trailer) :
    (e.forPart part).rules = [] := by
  rw [forPart_of_onlyTrailers h, if_neg hp]

/-- Where all rules are about trailers, only the footers change. -/
theorem process_of_onlyTrailers (h : OnlyTrailers e.ids) (m : Message)
    (files : Option ChangedFiles) :
    ∃ p, m.process e true files = .ok p ∧ p.message =
      { m with footers := if e.rules = [] then m.footers
          else retoken m.footers (e.evaluate m.trailers true files).output } := by
  have hidle : ∀ part, part ≠ .trailer → (e.forPart part).rules = [] :=
    fun part => rules_of_onlyTrailers h
  have hfields : processFields ⟨true, files⟩ e m.header HeaderField.all = (m.header, []) :=
    processFields_eq_self (fun field _ => hidle _ (by cases field <;> decide)) m.header
  have hheader : processHeader ⟨true, files⟩ e m.header = .ok (m.header, []) :=
    processHeader_eq_self (hidle _ (by decide)) m.header
  have hbody : processBody ⟨true, files⟩ e m.body = (m.body, []) :=
    processBody_eq_self (hidle _ (by decide)) m.body
  have htexts : processTexts ⟨true, files⟩ e m.footers = (m.footers, []) :=
    processTexts_eq_self (hidle _ (by decide)) m.footers
  have hlines : ∀ fs, processLines ⟨true, files⟩ e fs = (fs, []) :=
    processLines_eq_self (hidle _ (by decide))
  obtain ⟨reports, htokens⟩ : ∃ reports, processTokens ⟨true, files⟩ e m.footers =
      (if e.rules = [] then m.footers
        else retoken m.footers (e.evaluate m.trailers true files).output, reports) := by
    rw [processTokens, Run.evaluate?, forPart_of_onlyTrailers h, if_pos rfl]
    by_cases he : e.rules = []
    · have hempty : e.isEmpty = true := by rw [Engine.isEmpty, he]; rfl
      rw [if_pos hempty, if_pos he]
      exact ⟨[], rfl⟩
    · have hfull : ¬e.isEmpty = true := by simpa [Engine.isEmpty] using he
      rw [if_neg hfull, if_neg he]
      exact ⟨_, rfl⟩
  unfold process
  simp only [hfields, hheader, hbody, htexts, htokens, hlines]
  exact ⟨_, rfl, rfl⟩

end Stages

/-- When repairing the trailers of a message that was read keeps its footers: no wanted token may
be rarer in its normal spelling, and as many tokens as footers have to be the old ones up to the
last footer with a text. -/
theorem process_keeps_iff {c : Coercions} (s : Text) {rules : Entries}
    (h : OnlyTrailers (Entries.keys rules)) (files : Option ChangedFiles) :
    ∃ m, parse .standard s = .ok m ∧ ∃ p, m.process (.ofRules c rules) true files = .ok p ∧
      (KeepsFooters m.footers ((Engine.ofRules c rules).evaluate m.trailers true files).output
          p.message.footers ↔
        (∀ t, min (tokenCount t m.footers)
            (((Engine.ofRules c rules).evaluate m.trailers true files).output.count t) ≤
          tokenCount t p.message.footers) ∧
        (((Engine.ofRules c rules).evaluate m.trailers true files).output.length =
            m.footers.length →
          uptoText m.footers <+: p.message.footers)) := by
  obtain ⟨m, hm⟩ := exists_parse s
  obtain ⟨ps, hread, -, -⟩ := isRead_of_parse hm
  have hids : OnlyTrailers (Engine.ofRules c rules).ids := by
    intro id hid
    obtain ⟨r, hr, rfl⟩ := List.mem_map.mp hid
    obtain ⟨entry, hentry, hrule⟩ := List.mem_filterMap.mp hr
    obtain ⟨raw, hraw, rfl⟩ := List.mem_map.mp hentry
    obtain ⟨rule, -, rfl⟩ := Option.map_eq_some_iff.mp hrule
    exact h raw.1 (List.mem_map_of_mem hraw)
  obtain ⟨p, hp, hmessage⟩ := process_of_onlyTrailers hids m files
  refine ⟨m, hm, p, hp, ?_⟩
  have hfooters : p.message.footers = if (Engine.ofRules c rules).rules = [] then m.footers
      else retoken m.footers ((Engine.ofRules c rules).evaluate m.trailers true files).output := by
    rw [hmessage]
  rw [hfooters]
  by_cases hempty : (Engine.ofRules c rules).rules = []
  · have hlen : ((Engine.ofRules c rules).evaluate m.trailers true files).output.length =
        m.footers.length := by
      rw [Engine.evaluate, hempty]
      exact List.length_map _
    rw [if_pos hempty, keeps_iff_of_texts rfl hread.unpainted_footer hread.unpainted_footer]
    exact and_congr_right fun _ => ⟨fun hprefix _ => hprefix, fun hprefix => hprefix hlen⟩
  · rw [if_neg hempty]
    exact keeps_retoken_iff hread.unpainted_footer _

/-- At most one trailer, and one that is demanded. -/
def oneDemanded : Entries :=
  [("trailer-allow-multiple".toList, .list [.int 2, .text "never".toList]),
    ("trailer-exists".toList,
      .list [.int 2, .text "always".toList, .list [.text "C".toList]])]

theorem process_keeps_oneDemanded :
    OnlyTrailers (Entries.keys oneDemanded) ∧
      ∃ m, parse .standard "X\n\nA: x\nB: y\nD: z".toList = .ok m ∧
        ∃ p, m.process (.ofRules .lax oneDemanded) true none = .ok p ∧
          ((Engine.ofRules .lax oneDemanded).evaluate m.trailers true none).output =
            ["A".toList, "C".toList] ∧
          p.message.footers.map Footer.plain = ["A: x".toList, "C:".toList] ∧
          KeepsFooters m.footers ["A".toList, "C".toList] p.message.footers := by
  have h : OnlyTrailers (Entries.keys oneDemanded) := by decide
  obtain ⟨m, hm, p, hp, houtput, hafter, hrare, hlength⟩ :
      ∃ m, parse .standard "X\n\nA: x\nB: y\nD: z".toList = .ok m ∧
        ∃ p, m.process (.ofRules .lax oneDemanded) true none = .ok p ∧
          ((Engine.ofRules .lax oneDemanded).evaluate m.trailers true none).output =
            ["A".toList, "C".toList] ∧
          p.message.footers.map Footer.plain = ["A: x".toList, "C:".toList] ∧
          (∀ t ∈ ["A".toList, "C".toList], min (tokenCount t m.footers)
            (["A".toList, "C".toList].count t) ≤ tokenCount t p.message.footers) ∧
          ["A".toList, "C".toList].length ≠ m.footers.length :=
    ⟨_, rfl, _, rfl, by decide +kernel, by decide +kernel, by decide +kernel, by decide +kernel⟩
  obtain ⟨m', hm', p', hp', hkeeps⟩ :=
    process_keeps_iff (c := .lax) "X\n\nA: x\nB: y\nD: z".toList h none
  obtain rfl := Except.ok.inj (hm.symm.trans hm')
  obtain rfl := Except.ok.inj (hp.symm.trans hp')
  rw [houtput] at hkeeps
  refine ⟨h, m, hm, p, hp, houtput, hafter, hkeeps.mpr ⟨fun t => ?_, fun h => absurd h hlength⟩⟩
  by_cases ht : t ∈ ["A".toList, "C".toList]
  · exact hrare t ht
  · rw [List.count_eq_zero.mpr ht, Nat.min_zero]
    exact Nat.zero_le _

/-- A demanded trailer takes the place of one that is left out, and with it the text. -/
theorem process_reassigns_text :
    ∃ m, parse .standard "X\n\nA: x\n\nB: y".toList = .ok m ∧
      ∃ p, m.process (.ofRules .lax oneDemanded) true none = .ok p ∧
        m.footers.map Footer.plain = ["A: x".toList, "B: y".toList] ∧
        p.message.footers.map Footer.plain = ["A: x".toList, "C: y".toList] ∧
        ¬KeepsFooters m.footers
          ((Engine.ofRules .lax oneDemanded).evaluate m.trailers true none).output
          p.message.footers := by
  obtain ⟨m, hm, p, hp, hbefore, hafter⟩ :
      ∃ m, parse .standard "X\n\nA: x\n\nB: y".toList = .ok m ∧
        ∃ p, m.process (.ofRules .lax oneDemanded) true none = .ok p ∧
          m.footers.map Footer.plain = ["A: x".toList, "B: y".toList] ∧
          p.message.footers.map Footer.plain = ["A: x".toList, "C: y".toList] :=
    ⟨_, rfl, _, rfl, by decide +kernel, by decide +kernel⟩
  refine ⟨m, hm, p, hp, hbefore, hafter, fun h => ?_⟩
  obtain ⟨kept, added, hparts, hkept, hadded⟩ := h.parts
  have hmem : "C: y".toList ∈ p.message.footers.map Footer.plain := by
    rw [hafter]
    decide
  obtain ⟨f, hf, hplain⟩ := List.mem_map.mp hmem
  rw [hparts] at hf
  rcases List.mem_append.mp hf with hf | hf
  · have hold : "C: y".toList ∈ m.footers.map Footer.plain :=
      hplain ▸ List.mem_map_of_mem (hkept.subset hf)
    rw [hbefore] at hold
    revert hold
    decide
  · have hlast := congrArg List.getLast? hplain
    rw [Footer.plain, hadded f hf] at hlast
    revert hlast
    simp

end CommitStandard.Message
