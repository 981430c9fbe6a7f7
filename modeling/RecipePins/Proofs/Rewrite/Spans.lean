import Mathlib.Data.List.Basic
import RecipePins.Proofs.Pin.Apart
import RecipePins.Proofs.Pin.Coverage
import RecipePins.Proofs.Rewrite.Frame

/-!
# Rewriting by the spans of pins

Where the tokens of a text are apart, every token is found and none is replaced along with another
one. The changes, each made everywhere in the text, then come to replacing all at once the spans of
the pins that are updated.
-/
namespace RecipePins
open Text

variable {s : Setup} {source : Source} {text : String} {asked : Token → Option String}
  {last : Option Token} {cs : List Cell}

/-- Where tokens are apart, the updates of the pins found are the edits made. -/
theorem filterMap_pinsAt {taken : Bool} (hs : Separate cs)
    (h : opened cs = none ∨ taken = false ∧ last = none) (offset : Nat) :
    (pinsAt offset taken cs).filterMap (fun p => (asked p.token).map (Edit.mk p)) =
      editsAt asked offset last cs := by
  induction cs generalizing offset taken last with
  | nil => rfl
  | cons a cs ih =>
    rw [pinsAt, editsAt]
    cases ho : opened (a :: cs) with
    | none =>
      rw [ite_self, changeAt_none]
      exact ih hs.2 (.inr ⟨rfl, rfl⟩) _
    | some t =>
      obtain ⟨rfl, rfl⟩ := h.resolve_left (by simp [ho])
      have hn : opened cs = none := hs.1.resolve_left (by simp [ho])
      cases ha : asked t with
      | none =>
        rw [changeAt_none_of_asked ha, if_neg Bool.false_ne_true, List.filterMap_cons_none (by simp [ha])]
        exact ih hs.2 (.inl hn) _
      | some v =>
        have hc : changeAt asked none (some t) = some ⟨t, v⟩ :=
          changeAt_eq_some_iff.2 ⟨rfl, by simp, ha⟩
        rw [hc, if_neg Bool.false_ne_true, List.filterMap_cons_some (b := ⟨⟨t, offset⟩, v⟩) (by simp [ha])]
        exact congrArg _ (ih hs.2 (.inl hn) _)

theorem ofOutcome?_pinOutcome_edit {pin : Pin} (h : pin ∈ scan s.exclusion text) :
    Edit.ofOutcome? (s.pinOutcome source text pin) =
      (s.update source pin.token).map (Edit.mk pin) := by
  rw [Edit.ofOutcome?, newVersion?_pinOutcome h]
  rfl

theorem tokenSpan_le_start_of_mem (h : ∀ a ∈ cs, a.Proper) {offset : Nat} {p : Span}
    (hp : p ∈ (editsAt asked offset last cs).map Edit.tokenSpan) : offset ≤ p.start := by
  obtain ⟨e, he, rfl⟩ := List.mem_map.1 hp
  exact offset_le_of_mem_editsAt h he

/-- The span of a token ends with the mark of the next cell. -/
theorem Edit.tokenSpan_stop (e : Edit) {a : Cell} (h : ∀ b ∈ a :: cs, b.Proper)
    (ho : opened (a :: cs) = some e.pin.token) :
    e.tokenSpan.stop = e.pin.offset + byteLength a.chars + 1 := by
  rw [Nat.add_assoc, ← Pin.length_eq_of_opened h ho]
  rfl

/-- A quotation mark that stays can be left out. -/
theorem splice_mark_iff {q : Char} {here : Nat} {ps : List Span} {s t : List Char}
    (hq : isPinQuote q = true) (h : ∀ p ∈ ps, here + 1 ≤ p.start) :
    splice here ps (encode (q :: s)) = encode (q :: t) ↔ splice (here + 1) ps (encode s) = encode t := by
  have hlen : (String.utf8EncodeChar q).length = 1 := by
    rw [String.length_utf8EncodeChar, utf8Size_of_isPinQuote hq]
  rw [encode_cons, encode_cons, splice_keep (by rwa [hlen]), hlen, List.append_cancel_left_eq]

/-- Where tokens are apart, replacing whole tokens all at once gives the revised cells. -/
theorem splice_tokenSpan (h : ∀ a ∈ cs, a.Proper) (hs : Separate cs)
    (hl : opened cs = none ∨ last = none) (offset : Nat) :
    splice offset ((editsAt asked offset last cs).map Edit.tokenSpan) (encode (joinCells cs)) =
      encode (joinCells (revised asked last cs)) := by
  induction cs generalizing offset last with
  | nil => rfl
  | cons a cs ih =>
    have hcs := (List.forall_mem_cons.1 h).2
    rw [editsAt, revised_cons]
    cases hc : changeAt asked last (opened (a :: cs)) with
    | none =>
      dsimp only
      rw [joinCells_cons_chars, joinCells_cons_chars, encode_append, encode_append, splice_keep,
        length_encode, ih hcs hs.2 (.inr rfl)]
      · rfl
      · intro p hp
        rw [length_encode]
        exact tokenSpan_le_start_of_mem hcs hp
    | some c =>
      -- the span takes in the mark of the next cell, at which no token opens
      dsimp only
      obtain ⟨ho, -, -⟩ := changeAt_eq_some_iff.1 hc
      obtain ⟨b, rest, he, hb⟩ := opened_eq_some_split h ho
      obtain ⟨rfl, rfl⟩ := List.cons.inj he
      have hn : opened (b :: rest) = none := hs.1.resolve_left (by simp [ho])
      have hmark := byteLength_cell (hcs b (by simp))
      have hrest := @ih (some c.token) hcs hs.2 (.inl hn)
        (offset + byteLength (Cell.chars ⟨c.token.quote, c.token.inner⟩))
      have hstart : (Edit.tokenSpan ⟨⟨c.token, offset⟩, c.version⟩).start = offset := rfl
      have hlen : (Edit.tokenSpan ⟨⟨c.token, offset⟩, c.version⟩).length =
          (encode c.token.chars).length := (length_encode _).symm
      have hstop := Edit.tokenSpan_stop ⟨⟨c.token, offset⟩, c.version⟩ h ho
      have hnew : joinCells (Cell.revise ⟨c.token.quote, c.token.inner⟩ (some c) :: b ::
            revised asked none rest) =
          (c.token.withVersion c.version).chars ++ (b.inner ++ joinCells (revised asked none rest)) :=
        joinCells_token (t := c.token.withVersion c.version) _ hb
      rw [editsAt_cons_of_closed hn, revised_cons_of_closed hn, joinCells_cons, joinCells_cons,
        splice_mark_iff (hcs b (by simp)).quote] at hrest
      · rw [Option.map_some, editsAt_cons_of_closed hn, revised_cons_of_closed hn,
          joinCells_token rest hb, hnew, List.map_cons, encode_append,
          splice_replace hstart hlen, hstop, hrest]
        exact (encode_append _ _).symm
      · intro p hp
        have hle := tokenSpan_le_start_of_mem (List.forall_mem_cons.1 hcs).2 hp
        omega

/-- The pins that are updated, as edits of the text, are those that the rewrite makes. -/
theorem updates_eq_edits (h : TokensApart text.toList) :
    (s.outcomes source text).filterMap Edit.ofOutcome? = s.edits source text := by
  rw [Setup.edits, ← filterMap_pinsAt (tokensApart_iff.1 h) (.inr ⟨rfl, rfl⟩),
    ← pinsFrom_zero, Setup.outcomes, List.filterMap_map, scan, List.filterMap_filter]
  refine List.filterMap_congr fun pin hpin => ?_
  by_cases hx : s.exclusion.excludes pin.token.name pin.token.version = true
  · have hu : askFor (s.update source) (s.tokens text) pin.token = none := by
      rw [askFor, Setup.update, hx]
      simp
    simp [hx, hu]
  · have hmem : pin ∈ scan s.exclusion text := List.mem_filter.2 ⟨hpin, by simpa using hx⟩
    have ht : pin.token ∈ s.tokens text := List.mem_map_of_mem hmem
    simp [hx, askFor, ht, ofOutcome?_pinOutcome_edit hmem]

theorem filterMap_updated (report : Report) :
    report.updated.filterMap Edit.ofOutcome? = report.outcomes.filterMap Edit.ofOutcome? := by
  rw [Report.updated, List.filterMap_filter]
  refine congrArg (List.filterMap · report.outcomes) (funext fun o => ?_)
  rw [Edit.ofOutcome?]
  cases o.newVersion? <;> rfl

/-- Where tokens are apart, replacing whole tokens gives the same as replacing versions. -/
theorem splice_tokenSpan_edits (h : TokensApart text.toList) :
    splice 0 ((s.edits source text).map Edit.tokenSpan) (bytes text) =
      encode (lead text.toList) ++ encode (joinCells (s.revisedCells source text)) := by
  have hproper := proper_cells text.toList
  rw [Setup.edits, splice_bytes fun p hp => tokenSpan_le_start_of_mem hproper hp,
    splice_tokenSpan hproper (tokensApart_iff.1 h) (.inr rfl)]
  rfl

theorem pairwise_tokenSpan (h : TokensApart text.toList) :
    (s.edits source text).Pairwise fun e e' => e.tokenSpan.stop ≤ e'.tokenSpan.start := by
  refine (ordered_edits s source text).imp_of_mem fun {e e'} he he' hle => ?_
  obtain ⟨hg, hs, -⟩ := mem_edits he
  obtain ⟨hg', hs', -⟩ := mem_edits he'
  have hlt := e.offset_lt_versionSpan_start hg
  have hstop : e.versionSpan.start ≤ e.versionSpan.stop := Nat.le_add_right _ _
  exact h e.pin e'.pin hg hg' hs hs' (by omega)

theorem mem_filterMap_outcomes_iff {e : Edit} :
    e ∈ (s.outcomes source text).filterMap Edit.ofOutcome? ↔
      e.pin ∈ scan s.exclusion text ∧ s.update source e.pin.token = some e.version := by
  rw [← exists_updated_iff, List.mem_filterMap]
  constructor
  · rintro ⟨o, ho, he⟩
    obtain ⟨v, hv, rfl⟩ := Option.map_eq_some_iff.1 he
    exact ⟨o, ho, rfl, hv⟩
  · rintro ⟨o, ho, hpin, hv⟩
    exact ⟨o, ho, by rw [Edit.ofOutcome?, hv, hpin]; rfl⟩

/-- Where tokens are apart, those updated are all that stand, are not excluded and have a new version. -/
theorem mem_updates_iff {e : Edit} (h : TokensApart text.toList) :
    e ∈ (s.outcomes source text).filterMap Edit.ofOutcome? ↔
      e.pin.token.Grammatical ∧ e.pin.StandsIn text.toList ∧
        s.exclusion.excludes e.pin.token.name e.pin.token.version = false ∧
        s.outcome source e.pin.token.name e.pin.token.version =
          .updated e.pin.token.version e.version := by
  rw [mem_filterMap_outcomes_iff, mem_scan_iff_of_tokensApart h, update_eq_some_iff]
  constructor
  · rintro ⟨⟨hg, hs, hx⟩, -, ho⟩
    exact ⟨hg, hs, hx, ho⟩
  · rintro ⟨hg, hs, hx, ho⟩
    exact ⟨⟨hg, hs, hx⟩, hx, ho⟩

/-- Where tokens are apart, a rewrite replaces all at once the spans of the pins that the plan updates,
each by the token with the new version, and all else stays. The plan updates every token that stands in
the text, is not excluded and has a new version, and no others; the report lists its outcomes. -/
theorem rewrite_replaces_updated_spans (s : Setup) (source : Source) (h : s.QuoteFree source)
    (calls : List Call) (text : String) (ha : TokensApart text.toList) :
    let w := s.rewriter.after source calls
    let plan := (w.plan source text).1
    let updates := plan.filterMap Edit.ofOutcome?
    let result := (w.rewrite source text).1
    result.report.outcomes = plan ∧
      result.report.updated.filterMap Edit.ofOutcome? = updates ∧
      (∀ e, e ∈ updates ↔ e.pin.token.Grammatical ∧ e.pin.StandsIn text.toList ∧
        s.exclusion.excludes e.pin.token.name e.pin.token.version = false ∧
        s.outcome source e.pin.token.name e.pin.token.version =
          .updated e.pin.token.version e.version) ∧
      (∀ e ∈ updates, e.version ≠ e.pin.token.version) ∧
      (updates.Pairwise fun e e' => e.tokenSpan.stop ≤ e'.tokenSpan.start) ∧
      bytes result.text = splice 0 (updates.map Edit.tokenSpan) (bytes text) := by
  intro w plan updates result
  have hw : s.Serves source w := (Setup.Serves.fresh s source).after calls
  have hplan : plan = s.outcomes source text := hw.plan_eq text
  have hreport : result.report.outcomes = plan := (hw.rewrite_outcomes text).trans hplan.symm
  have hedits : updates = s.edits source text := by
    rw [← updates_eq_edits ha, ← hplan]
  have hmem (e : Edit) : e ∈ updates ↔ _ := hplan ▸ mem_updates_iff ha
  refine ⟨hreport, ?listed, hmem, ?changes, ?apart, ?text⟩
  case listed => rw [filterMap_updated, hreport]
  case changes =>
    intro e he
    obtain ⟨-, -, -, ho⟩ := (hmem e).1 he
    exact (choose_of_updated ho).2.1
  case apart =>
    rw [hedits]
    exact pairwise_tokenSpan ha
  case text => rw [hedits, splice_tokenSpan_edits ha, bytes_rewrite h hw]

/-- A text in which one pin is repeated and the tokens are apart. -/
def repeatedPin : String :=
  "\"zlib/1.2.13\" 'cmake/3.24.0' \"zlib/1.2.13\""

theorem updated_spans_of_repeated_pin :
    let w := Setup.standard.rewriter.after KeptAnswers.sample.toSource [.plan "'cmake/3.1'"]
    let updates := (w.plan KeptAnswers.sample.toSource repeatedPin).1.filterMap Edit.ofOutcome?
    updates.map (fun e => (e.pin.offset, e.version)) =
        [(0, "1.3.1"), (14, "[>=3.24]"), (29, "1.3.1")] ∧
      bytes (w.rewrite KeptAnswers.sample.toSource repeatedPin).1.text =
        splice 0 (updates.map Edit.tokenSpan) (bytes repeatedPin) := by
  have ha : TokensApart repeatedPin.toList := tokensApart_iff.2 (by decide +kernel)
  obtain ⟨-, -, -, -, -, ht⟩ := rewrite_replaces_updated_spans Setup.standard KeptAnswers.sample.toSource
    quoteFree_sample [.plan "'cmake/3.1'"] repeatedPin ha
  exact ⟨by decide +kernel, ht⟩

end RecipePins
