import RecipePins.Proofs.Rewrite.Repeat

/-!
# Whether a rewrite changes the text

A rewrite that reports an update changes the text, if no quotation mark can get into it: of the places
where an updated token stands, the first in its chain gets the new version, and no replacement made
later brings the old one back.
-/
namespace RecipePins
open Text

variable {s : Setup} {source : Source} {text : String}

/-- Of equal tokens in a chain of shared marks there is a first one. -/
theorem exists_first_opened {t : Token} {i : Nat} (h : openedAt text i = some t) :
    ∃ j, openedAt text j = some t ∧ chain (fun k => openedAt text k = some t) j = 0 := by
  induction i with
  | zero => exact ⟨0, h, rfl⟩
  | succ i ih =>
    by_cases hi : openedAt text i = some t
    · exact ih hi
    · exact ⟨i + 1, h, by rw [chain, if_neg (by simpa using hi)]⟩

/-- A token that needs an update gets it at one of its places. -/
theorem exists_replacement {t : Token} {v : String} (ht : t ∈ s.tokens text)
    (hv : s.update source t = some v) :
    ∃ i, openedAt text i = some t ∧ s.replacement? source text i = some v := by
  obtain ⟨i, hi, -⟩ := mem_found_iff.1 (mem_tokens_iff.1 ht).1
  obtain ⟨j, hj, hc⟩ := exists_first_opened hi
  refine ⟨j, hj, ?_⟩
  rw [Setup.replacement?, hj, Option.bind_some, hc, if_pos ⟨ht, rfl⟩, hv]

theorem rewrite_text_ne (h : s.QuoteFree source) {w : Rewriter} (hw : s.Serves source w) {t : Token}
    {v : String} (ht : t ∈ s.tokens text) (hv : s.update source t = some v) :
    (w.rewrite source text).1.text ≠ text := by
  intro he
  obtain ⟨i, ho, hr⟩ := exists_replacement ht hv
  -- if the text stayed as it is, the place would open the old token and the new one
  have hplace : (spots (s.revisedCells source text))[i]?.join = _ := revisedCells_getElem?_join h i
  rw [← cells_rewrite h hw, he, hr, ho] at hplace
  have hsame : openedAt text i = if isPinWord v.toList then some (t.withVersion v) else none := hplace
  rw [ho] at hsame
  have hversion : t = t.withVersion v := by
    split at hsame
    · exact Option.some.inj hsame
    · cases hsame
  obtain ⟨-, hne, -⟩ := choose_of_updated (update_eq_some_iff.1 hv).2
  exact hne (congrArg Token.version hversion).symm

/-- A rewrite changes the text exactly if it reports an update. -/
theorem rewrite_text_ne_iff (h : s.QuoteFree source) {w : Rewriter} (hw : s.Serves source w) :
    (w.rewrite source text).1.text ≠ text ↔ (w.rewrite source text).1.report.updated ≠ [] := by
  constructor
  · exact fun hne hu => hne (text_eq_of_updated_eq_nil hw hu)
  · intro hu he
    refine hu ((updated_eq_nil_iff hw).2 fun t ht => ?_)
    cases hv : s.update source t with
    | none => rfl
    | some v => exact absurd he (rewrite_text_ne h hw ht hv)

end RecipePins
