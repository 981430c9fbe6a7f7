import RecipePins.Proofs.Rewrite.Edit

/-!
# The frame of a rewrite

A rewrite replaces versions of tokens that its report lists as updated, and nothing else. Every other
byte stays, and so does every token that is excluded or has another outcome, even if it shares its
quotation marks with one that changes.
-/
namespace RecipePins
open Text

/-- The edit does not meet the token of the pin. -/
def Edit.Spares (e : Edit) (p : Pin) : Prop :=
  e.versionSpan.stop ≤ p.offset ∨ p.offset + p.length ≤ e.versionSpan.start

/-- Edits that account for a rewrite: its text is the original one with the versions replaced. -/
structure Framed (exclusion : Exclusion) (text : String) (result : Rewrite) (edits : List Edit) :
    Prop where
  ordered : edits.Pairwise fun e e' => e.versionSpan.stop ≤ e'.versionSpan.start
  reported : ∀ e ∈ edits, e.pin.token.Grammatical ∧ e.pin.StandsIn text.toList ∧
    ∃ o ∈ result.report.outcomes, o.pin.token = e.pin.token ∧
      o.outcome = .updated e.pin.token.version e.version
  text_eq : bytes result.text = splice 0 (edits.map Edit.versionSpan) (bytes text)
  untouched : ∀ p : Pin, p.token.Grammatical → p.StandsIn text.toList →
    (exclusion.excludes p.token.name p.token.version = true ∨
      ∃ o ∈ result.report.outcomes, o.pin.token.name = p.token.name ∧
        o.pin.token.version = p.token.version ∧ o.newVersion? = none) →
    (∀ e ∈ edits, e.Spares p) ∧
      ∃ before after, bytes result.text = before ++ (encode p.token.chars ++ after)

def Setup.edits (s : Setup) (source : Source) (text : String) : List Edit :=
  editsAt (askFor (s.update source) (s.tokens text)) (byteLength (lead text.toList)) none
    (cells text.toList)

variable {s : Setup} {source : Source} {text : String}

theorem mem_edits {e : Edit} (he : e ∈ s.edits source text) :
    e.pin.token.Grammatical ∧ e.pin.StandsIn text.toList ∧ e.pin.token ∈ s.tokens text ∧
      s.update source e.pin.token = some e.version := by
  obtain ⟨hg, hv, before, after, hj, ho⟩ := mem_editsAt (proper_cells text.toList) he
  obtain ⟨ht, hu⟩ := askFor_eq_some_iff.1 hv
  refine ⟨hg, ⟨lead text.toList ++ before, after, ?_, ?_⟩, ht, hu⟩
  · conv => lhs; rw [← lead_append_joinCells text.toList]
    rw [hj, List.append_assoc]
  · rw [byteLength_append, ho]

theorem exists_outcome_of_mem_tokens (source : Source) {t : Token} (ht : t ∈ s.tokens text) :
    ∃ o ∈ s.outcomes source text, o.pin.token = t ∧ o.outcome = s.outcome source t.name t.version := by
  obtain ⟨pin, hpin, rfl⟩ := List.mem_map.1 ht
  exact ⟨_, List.mem_map_of_mem hpin, rfl, rfl⟩

/-- The lead of a text stays if no part meets it. -/
theorem splice_bytes {ps : List Span} (h : ∀ p ∈ ps, byteLength (lead text.toList) ≤ p.start) :
    splice 0 ps (bytes text) = encode (lead text.toList) ++
      splice (byteLength (lead text.toList)) ps (encode (joinCells (cells text.toList))) := by
  have hsplit : bytes text = encode (lead text.toList) ++ encode (joinCells (cells text.toList)) := by
    rw [bytes_eq_encode, ← encode_append, lead_append_joinCells]
  have hlen : 0 + (encode (lead text.toList)).length = byteLength (lead text.toList) := by
    rw [length_encode, Nat.zero_add]
  rw [hsplit, splice_keep (by rwa [hlen]), hlen]

theorem bytes_rewrite (h : s.QuoteFree source) {w : Rewriter} (hw : s.Serves source w) :
    bytes (w.rewrite source text).1.text =
      encode (lead text.toList) ++ encode (joinCells (s.revisedCells source text)) := by
  rw [rewrite_text_eq h hw, bytes_eq_encode, String.toList_ofList, encode_append]

/-- The edits of a rewrite, made all at once, give its text. -/
theorem splice_edits (h : s.QuoteFree source) {w : Rewriter} (hw : s.Serves source w) :
    bytes (w.rewrite source text).1.text =
      splice 0 ((s.edits source text).map Edit.versionSpan) (bytes text) := by
  have hproper := proper_cells text.toList
  rw [bytes_rewrite h hw, Setup.edits, splice_bytes fun p hp => le_start_of_mem_editsAt hproper hp,
    splice_editsAt hproper]
  rfl

/-- A token that is not updated needs no version. -/
theorem update_eq_none {t : Token} (h : s.exclusion.excludes t.name t.version = true ∨
    ∃ o ∈ s.outcomes source text, o.pin.token.name = t.name ∧ o.pin.token.version = t.version ∧
      o.newVersion? = none) : s.update source t = none := by
  cases hu : s.update source t with
  | none => rfl
  | some v =>
    obtain ⟨hx, ho⟩ := update_eq_some_iff.1 hu
    rcases h with h | ⟨o, hmem, hn, hv, hnone⟩
    · rw [hx] at h
      cases h
    · obtain ⟨pin, -, rfl⟩ := List.mem_map.1 hmem
      have hout : (s.pinOutcome source text pin).outcome = .updated t.version v := by
        rw [← ho, ← hn, ← hv]
        rfl
      rw [PinOutcome.newVersion?, hout] at hnone
      cases hnone

/-- An edit of one token and another token that stands in the text share at most a mark. -/
theorem Edit.spares_of_ne {e : Edit} {p : Pin} {s : List Char} (hg : e.pin.token.Grammatical)
    (hp : p.token.Grammatical) (he : e.pin.StandsIn s) (h : p.StandsIn s)
    (hne : e.pin.token ≠ p.token) : e.Spares p := by
  have hstop := e.versionSpan_stop_add_one hg
  have hstart := e.offset_lt_versionSpan_start hg
  rcases Pin.StandsIn.apart hg hp he h with rfl | h | h
  · exact absurd rfl hne
  · exact .inl (by omega)
  · exact .inr (by omega)

theorem edits_spare {p : Pin} (hp : p.token.Grammatical) (h : p.StandsIn text.toList)
    (hu : s.update source p.token = none) : ∀ e ∈ s.edits source text, e.Spares p := by
  intro e he
  obtain ⟨hg, hstands, -, hv⟩ := mem_edits he
  refine Edit.spares_of_ne hg hp hstands h fun hne => ?_
  rw [hne, hu] at hv
  cases hv

theorem ordered_edits (s : Setup) (source : Source) (text : String) :
    (s.edits source text).Pairwise fun e e' => e.versionSpan.stop ≤ e'.pin.offset :=
  pairwise_editsAt (proper_cells text.toList) _

/-- The versions that are replaced come one after the other. -/
theorem pairwise_versionSpan (s : Setup) (source : Source) (text : String) :
    (s.edits source text).Pairwise fun e e' => e.versionSpan.stop ≤ e'.versionSpan.start :=
  (ordered_edits s source text).imp fun h => Nat.le_trans h (Nat.le_add_right _ _)

/-- A token that every edit spares is still there after the edits. -/
theorem stands_after_edits {p : Pin} (h : p.StandsIn text.toList)
    (hs : ∀ e ∈ s.edits source text, e.Spares p) :
    ∃ before after, splice 0 ((s.edits source text).map Edit.versionSpan) (bytes text) =
      before ++ (encode p.token.chars ++ after) := by
  obtain ⟨before, after, ht, hb⟩ := h
  rw [bytes_eq_encode, ht, encode_append, encode_append]
  refine splice_window (List.pairwise_map.2 (pairwise_versionSpan s source text)) (fun _ _ => Nat.zero_le _)
    fun q hq => ?_
  obtain ⟨e, he, rfl⟩ := List.mem_map.1 hq
  rw [length_encode, length_encode, hb, Nat.zero_add]
  exact hs e he

/-- Whatever calls went before, a rewrite changes versions of tokens that it reports as updated, to
the versions that it reports, and leaves the rest of the text byte for byte as it was. -/
theorem rewrite_framed (s : Setup) (source : Source) (h : s.QuoteFree source) (calls : List Call)
    (text : String) : ∃ edits,
      Framed s.exclusion text ((s.rewriter.after source calls).rewrite source text).1 edits := by
  have hw := (Setup.Serves.fresh s source).after calls
  refine ⟨s.edits source text, pairwise_versionSpan s source text, ?_, splice_edits h hw, ?_⟩
  · intro e he
    obtain ⟨hg, hstands, ht, hu⟩ := mem_edits he
    rw [hw.rewrite_outcomes]
    obtain ⟨o, ho, hto, hout⟩ := exists_outcome_of_mem_tokens source ht
    exact ⟨hg, hstands, o, ho, hto, hout.trans (update_eq_some_iff.1 hu).2⟩
  · intro p hp hstands hx
    rw [hw.rewrite_outcomes] at hx
    have hspare := edits_spare hp hstands (update_eq_none hx)
    rw [splice_edits h hw]
    exact ⟨hspare, stands_after_edits hstands hspare⟩

theorem framed_shared_marks :
    ((Setup.standard.rewriter.after KeptAnswers.sample.toSource [.plan "'cmake/3.1'"]).rewrite
        KeptAnswers.sample.toSource "\"zlib/1.2.13\"cmake/system\"zlib/system\"").1.text =
      "\"zlib/1.3.1\"cmake/system\"zlib/system\"" ∧
    ∃ edits, Framed Setup.standard.exclusion "\"zlib/1.2.13\"cmake/system\"zlib/system\""
      ((Setup.standard.rewriter.after KeptAnswers.sample.toSource [.plan "'cmake/3.1'"]).rewrite
        KeptAnswers.sample.toSource "\"zlib/1.2.13\"cmake/system\"zlib/system\"").1 edits :=
  ⟨by decide +kernel, rewrite_framed _ _ quoteFree_sample _ _⟩

end RecipePins
