import RecipePins.Proofs.Pin.Apart
import RecipePins.Proofs.Rewrite.Update

/-!
# Rewriting again

A second rewrite finds nothing to do if every token that needs an update has either got it or is still
out of reach, since its first quotation mark closes the token before it. Where tokens are apart this
is always so. Where they share marks a rewrite can bring a token to light that it has passed over.
-/
namespace RecipePins
open Text

/-- The token that opens at a quotation mark of a text, the marks being numbered from zero. -/
def openedAt (text : String) (i : Nat) : Option Token :=
  (spots (cells text.toList))[i]?.join

/-- The version that a rewrite writes into the token at a mark. The token has to be found somewhere
in the text, and of equal tokens in a chain the first, the third and so on are replaced. -/
def Setup.replacement? (s : Setup) (source : Source) (text : String) (i : Nat) : Option String :=
  (openedAt text i).bind fun t =>
    if t ∈ s.tokens text ∧ chain (fun j => openedAt text j = some t) i % 2 = 0 then s.update source t
    else none

/-- Whether a token opens at a mark after a rewrite. -/
def Setup.standsAfter (s : Setup) (source : Source) (text : String) (i : Nat) : Bool :=
  match s.replacement? source text i with
  | some v => isPinWord v.toList
  | none => (openedAt text i).isSome

/-- Every token that needs an update gets it, or the mark that it opens with is taken in the text
that a rewrite leaves. -/
def Setup.Settled (s : Setup) (source : Source) (text : String) : Prop :=
  ∀ i t, openedAt text i = some t → s.update source t ≠ none →
    s.replacement? source text i = none → chain (s.standsAfter source text) i % 2 = 1

variable {s : Setup} {source : Source} {text : String} {asked : Token → Option String}
  {last : Option Token}

theorem taken_changeAt {t : Token} {v : String} (o : Option Token) (ha : asked t = some v) :
    decide ((changeAt asked last o).map Change.token = some t) =
      (decide (o = some t) && !decide (last = some t)) := by
  rw [Bool.eq_iff_iff, decide_eq_true_iff, Bool.and_eq_true, decide_eq_true_iff, Bool.not_eq_true',
    decide_eq_false_iff_not]
  constructor
  · intro h
    obtain ⟨c, hc, rfl⟩ := Option.map_eq_some_iff.1 h
    obtain ⟨rfl, hl, -⟩ := changeAt_eq_some_iff.1 hc
    exact ⟨rfl, hl⟩
  · rintro ⟨rfl, hl⟩
    rw [(changeAt_eq_some_iff (c := ⟨t, v⟩)).2 ⟨rfl, hl, ha⟩]
    rfl

/-- A change is made at a place unless the token asked for there is taken along with an equal one. -/
theorem revisions_getElem?_eq_some_iff {os : List (Option Token)} {i : Nat} {c : Change} :
    (revisions asked last os)[i]?.join = some c ↔
      os[i]?.join = some c.token ∧ asked c.token = some c.version ∧
        free (decide (last = some c.token)) (fun j => os[j]?.join = some c.token) i = true := by
  induction os generalizing i last with
  | nil => simp [revisions]
  | cons o os ih =>
    rw [revisions]
    cases i with
    | zero =>
      simp only [List.getElem?_cons_zero, Option.join_some, changeAt_eq_some_iff, free]
      simp [and_comm]
    | succ i =>
      simp only [List.getElem?_cons_succ]
      rw [ih, free_succ]
      refine and_congr_right fun _ => and_congr_right fun ha => ?_
      rw [taken_changeAt o ha]
      simp

/-- After some changes there opens at a mark what the change there leaves, or else what did before. -/
theorem spots_revised_getElem? {cs : List Cell} (hp : ∀ t v, asked t = some v → Plain v.toList)
    (h : ∀ a ∈ cs, a.Proper) (i : Nat) :
    (spots (revised asked last cs))[i]?.join =
      match (revisions asked last (spots cs))[i]?.join with
      | some c => c.result?
      | none => (spots cs)[i]?.join := by
  induction cs generalizing i last with
  | nil => rfl
  | cons a cs ih =>
    have hcs := (List.forall_mem_cons.1 h).2
    rw [revised_cons, spots, spots, revisions]
    cases i with
    | succ i => exact ih hcs i
    | zero =>
      simp only [List.getElem?_cons_zero, Option.join_some]
      have hrest := proper_revised ((changeAt asked last (opened (a :: cs))).map Change.token) hp hcs
      have hquote := head?_revised asked ((changeAt asked last (opened (a :: cs))).map Change.token) cs
      cases hc : changeAt asked last (opened (a :: cs)) with
      | none =>
        rw [hc] at hrest hquote
        exact opened_congr h hrest hquote
      | some c =>
        rw [hc] at hrest hquote
        obtain ⟨ho, -, hv⟩ := changeAt_eq_some_iff.1 hc
        exact opened_changed (hp _ _ hv) h hrest hquote ho

theorem replacement?_eq_some_iff {i : Nat} {v : String} :
    s.replacement? source text i = some v ↔
      ∃ t, (revisions (askFor (s.update source) (s.tokens text)) none (spots (cells text.toList)))[i]?.join
        = some ⟨t, v⟩ := by
  simp only [revisions_getElem?_eq_some_iff, askFor_eq_some_iff, Setup.replacement?,
    Option.bind_eq_some_iff]
  refine exists_congr fun t => and_congr_right fun _ => ?_
  rw [Option.ite_none_right_eq_some, and_right_comm]
  exact and_congr_right fun _ => (free_iff_chain _ i).symm

/-- What opens at the marks of the text that a rewrite leaves. -/
theorem revisedCells_getElem?_join (h : s.QuoteFree source) (i : Nat) :
    (spots (s.revisedCells source text))[i]?.join =
      match s.replacement? source text i with
      | some v => (openedAt text i).bind fun t =>
        if isPinWord v.toList then some (t.withVersion v) else none
      | none => openedAt text i := by
  have hplain (t : Token) (v : String)
      (ha : askFor (s.update source) (s.tokens text) t = some v) : Plain v.toList :=
    h.stable.plain t v (askFor_eq_some_iff.1 ha).2
  rw [Setup.revisedCells, spots_revised_getElem? hplain (proper_cells _)]
  cases hr : (revisions (askFor (s.update source) (s.tokens text)) none
      (spots (cells text.toList)))[i]?.join with
  | none =>
    have hn : s.replacement? source text i = none := by
      cases hv : s.replacement? source text i with
      | none => rfl
      | some v =>
        obtain ⟨t, ht⟩ := replacement?_eq_some_iff.1 hv
        rw [hr] at ht
        cases ht
    rw [hn]
    rfl
  | some c =>
    rw [replacement?_eq_some_iff.2 ⟨c.token, hr⟩]
    have ho : openedAt text i = some c.token := (revisions_getElem?_eq_some_iff.1 hr).1
    rw [ho]
    rfl

theorem replacement?_source {i : Nat} {v : String} (h : s.replacement? source text i = some v) :
    ∃ t, openedAt text i = some t ∧ s.update source t = some v := by
  obtain ⟨t, ho, ht⟩ := Option.bind_eq_some_iff.1 h
  exact ⟨t, ho, (Option.ite_none_right_eq_some.1 ht).2⟩

theorem isSome_revisedCells (h : s.QuoteFree source) (i : Nat) :
    (spots (s.revisedCells source text))[i]?.join.isSome = s.standsAfter source text i := by
  rw [revisedCells_getElem?_join h, Setup.standsAfter]
  cases hr : s.replacement? source text i with
  | none => rfl
  | some v =>
    obtain ⟨t, ho, -⟩ := replacement?_source hr
    rw [ho]
    cases hw : isPinWord v.toList <;> simp [hw]

/-- A token that needs an update after a rewrite has stood there before. -/
theorem replacement?_of_update {i : Nat} {t : Token} (h : s.QuoteFree source)
    (ht : (spots (s.revisedCells source text))[i]?.join = some t) (hu : s.update source t ≠ none) :
    openedAt text i = some t ∧ s.replacement? source text i = none := by
  rw [revisedCells_getElem?_join h] at ht
  cases hr : s.replacement? source text i with
  | none =>
    rw [hr] at ht
    exact ⟨ht, rfl⟩
  | some v =>
    obtain ⟨t', ho, hv⟩ := replacement?_source hr
    rw [hr, ho] at ht
    obtain ⟨hw, rfl⟩ : isPinWord v.toList = true ∧ t'.withVersion v = t := by simpa using ht
    exact absurd (h.stable.settled t' v hv hw) hu

theorem settled_iff (h : s.QuoteFree source) :
    s.Settled source text ↔
      ∀ t ∈ found false (spots (s.revisedCells source text)), s.update source t = none := by
  have hstands : (fun j => (spots (s.revisedCells source text))[j]?.join.isSome) =
      s.standsAfter source text := funext (isSome_revisedCells h)
  constructor
  · intro hs t ht
    obtain ⟨i, hi, hf⟩ := mem_found_iff.1 ht
    rw [hstands, free_iff_chain] at hf
    by_cases hu : s.update source t = none
    · exact hu
    · obtain ⟨ho, hr⟩ := replacement?_of_update h hi hu
      have hodd := hs i t ho hu hr
      omega
  · intro ha i t ho hu hr
    have hi : (spots (s.revisedCells source text))[i]?.join = some t := by
      rw [revisedCells_getElem?_join h, hr]
      exact ho
    by_cases he : chain (s.standsAfter source text) i % 2 = 0
    · rw [← free_iff_chain, ← hstands] at he
      exact absurd (ha t (mem_found_iff.2 ⟨i, hi, he⟩)) hu
    · omega

/-- That excluded tokens need no update goes without saying. -/
theorem forall_mem_tokens_iff : (∀ t ∈ s.tokens text, s.update source t = none) ↔
    ∀ t ∈ found false (spots (cells text.toList)), s.update source t = none := by
  constructor
  · intro h t ht
    by_cases hx : s.exclusion.excludes t.name t.version = true
    · rw [Setup.update, if_pos hx]
    · exact h t (mem_tokens_iff.2 ⟨ht, by simpa using hx⟩)
  · intro h t ht
    exact h t (mem_tokens_iff.1 ht).1

/-- A rewrite reports no update exactly if no token that it finds needs one. -/
theorem updated_eq_nil_iff {w : Rewriter} (hw : s.Serves source w) :
    (w.rewrite source text).1.report.updated = [] ↔ ∀ t ∈ s.tokens text, s.update source t = none := by
  rw [Report.updated, hw.rewrite_outcomes, List.filter_eq_nil_iff, Setup.outcomes, Setup.tokens]
  simp only [List.forall_mem_map]
  refine forall_congr' fun pin => forall_congr' fun hpin => ?_
  rw [newVersion?_pinOutcome hpin, Bool.not_eq_true, Option.isSome_eq_false_iff, Option.isNone_iff_eq_none]

/-- A rewrite without updates leaves the text as it is. -/
theorem text_eq_of_updated_eq_nil {w : Rewriter} (hw : s.Serves source w)
    (h : (w.rewrite source text).1.report.updated = []) : (w.rewrite source text).1.text = text := by
  have hnone := (updated_eq_nil_iff hw).1 h
  have hc : (s.outcomes source text).filterMap Change.ofOutcome? = [] := by
    refine List.eq_nil_iff_forall_not_mem.2 fun c hc => ?_
    obtain ⟨ht, hv⟩ := mem_changes_iff.1 hc
    rw [hnone _ ht] at hv
    cases hv
  rw [hw.rewrite_text, applyOutcomes, hc]
  exact String.ofList_toList

theorem cells_rewrite (h : s.QuoteFree source) {w : Rewriter} (hw : s.Serves source w) :
    cells (w.rewrite source text).1.text.toList = s.revisedCells source text := by
  rw [rewrite_text_eq h hw, String.toList_ofList, cells_joinCells (plain_lead _)]
  exact proper_revised _ (fun t v ha => h.stable.plain t v (askFor_eq_some_iff.1 ha).2) (proper_cells _)

/-- Another rewrite of the text that a rewrite has left reports no update exactly if the first text is
settled. -/
theorem updated_again_eq_nil_iff (h : s.QuoteFree source) {w w' : Rewriter} (hw : s.Serves source w)
    (hw' : s.Serves source w') (text : String) :
    (w'.rewrite source (w.rewrite source text).1.text).1.report.updated = [] ↔ s.Settled source text := by
  rw [updated_eq_nil_iff hw', forall_mem_tokens_iff, cells_rewrite h hw, settled_iff h]

/-- Whatever calls went before, by the same rewriter or a fresh one, rewriting again the text that a
rewrite has left gives this text and reports no update exactly if the first text is settled. -/
theorem rewrite_again_iff_settled (s : Setup) (source : Source) (h : s.QuoteFree source)
    (calls calls' : List Call) (text : String) :
    let first := ((s.rewriter.after source calls).rewrite source text).1
    let second := ((s.rewriter.after source calls').rewrite source first.text).1
    (second.text = first.text ∧ second.report.updated = []) ↔ s.Settled source text := by
  have hw := (Setup.Serves.fresh s source).after calls
  have hw' := (Setup.Serves.fresh s source).after calls'
  have hagain := updated_again_eq_nil_iff h hw hw' text
  exact ⟨fun hs => hagain.1 hs.2, fun hs => ⟨text_eq_of_updated_eq_nil hw' (hagain.2 hs), hagain.2 hs⟩⟩

theorem rewrite_again_sample :
    Setup.standard.Settled KeptAnswers.sample.toSource "\"zlib/1.2.13\"cmake/3.24.0\"" ∧
      ¬ Setup.standard.Settled KeptAnswers.sample.toSource "\"cmake/3.24.0\"zlib/1.2.13\"" :=
  ⟨(rewrite_again_iff_settled _ _ quoteFree_sample [] [] _).1 (by decide +kernel),
    fun h => absurd ((rewrite_again_iff_settled _ _ quoteFree_sample [] [] _).2 h) (by decide +kernel)⟩

/-- The first rewrite gives `cmake` a version out of the grammar, so that the mark which its token
shared with that of `zlib` is free for the second one. -/
theorem not_rewrite_again_always :
    ¬ ∀ (s : Setup) (source : Source), s.QuoteFree source →
      ∀ (calls calls' : List Call) (text : String),
        let first := ((s.rewriter.after source calls).rewrite source text).1
        let second := ((s.rewriter.after source calls').rewrite source first.text).1
        second.text = first.text ∧ second.report.updated = [] := by
  intro h
  have hbad := h Setup.standard KeptAnswers.sample.toSource quoteFree_sample [] []
    "\"cmake/3.24.0\"zlib/1.2.13\""
  exact absurd hbad (by decide +kernel)

theorem chain_eq_zero {text : String} {i : Nat} {t : Token} {stands : Nat → Bool}
    (ha : TokensApart text.toList) (ho : openedAt text i = some t)
    (hs : ∀ j, stands j = true → openedAt text j ≠ none) : chain stands i = 0 := by
  cases i with
  | zero => rfl
  | succ i =>
    have hn : openedAt text i = none := (tokensApart_iff.1 ha).spots_pred ho
    rw [chain, if_neg fun h => hs i h hn]

/-- A text whose tokens are apart is settled, whatever the setting and the source. -/
theorem settled_of_tokensApart (s : Setup) (source : Source) {text : String}
    (ha : TokensApart text.toList) : s.Settled source text := by
  -- no token opens at the mark before, so the token is found, and it is the first of its chain
  intro i t ho hu hr
  have hfound : t ∈ found false (spots (cells text.toList)) := by
    refine mem_found_iff.2 ⟨i, ho, (free_iff_chain _ i).2 ?_⟩
    rw [chain_eq_zero ha ho fun j hj hn => by
      rw [openedAt] at hn
      simp [hn] at hj]
  have hx : s.exclusion.excludes t.name t.version = false := by
    cases hv : s.update source t with
    | none => exact absurd hv hu
    | some v => exact (update_eq_some_iff.1 hv).1
  have hchain : chain (fun j => openedAt text j = some t) i = 0 :=
    chain_eq_zero ha ho fun j hj hn => by simp [hn] at hj
  rw [Setup.replacement?, ho, Option.bind_some, hchain,
    if_pos ⟨mem_tokens_iff.2 ⟨hfound, hx⟩, rfl⟩] at hr
  exact absurd hr hu

/-- Where the tokens of a text are apart, rewriting it once more changes nothing. -/
theorem rewrite_again_of_tokensApart (s : Setup) (source : Source) (h : s.QuoteFree source)
    (calls calls' : List Call) {text : String} (ha : TokensApart text.toList) :
    let first := ((s.rewriter.after source calls).rewrite source text).1
    let second := ((s.rewriter.after source calls').rewrite source first.text).1
    second.text = first.text ∧ second.report.updated = [] := by
  have hw := (Setup.Serves.fresh s source).after calls
  have hw' := (Setup.Serves.fresh s source).after calls'
  have hnone := (updated_again_eq_nil_iff h hw hw' text).2 (settled_of_tokensApart s source ha)
  exact ⟨text_eq_of_updated_eq_nil hw' hnone, hnone⟩

end RecipePins
