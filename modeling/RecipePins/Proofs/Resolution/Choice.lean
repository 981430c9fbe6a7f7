import RecipePins.Proofs.Pin.Grammar
import RecipePins.Proofs.Resolution.Session
import RecipePins.Proofs.Text.Greatest

/-!
# Where chosen versions come from

A chosen version is one that the catalog lists, the range of a rule, or a floor. A declaration at a
version that has been chosen for its name resolves to that version again, unless the version is out of
the grammar of tokens, as a floor is.
-/
namespace RecipePins

/-- No version that a catalog lists and no range of a rule holds a quotation mark. -/
structure Setup.QuoteFree (s : Setup) (source : Source) : Prop where
  versions : ∀ name versions, source.versions name = .ok versions → ∀ v ∈ versions, Plain v.toList
  ranges : ∀ (name expr : String), s.overrides[name]? = some (.range expr) → Plain expr.toList

theorem latest?_text_mem {versions : List String} {latest : Version.DottedNumber}
    (h : Version.DottedNumber.latest? (versions.filterMap Version.DottedNumber.ofString?) =
      some latest) : latest.text ∈ versions := by
  obtain ⟨v, hv, ho⟩ := List.mem_filterMap.1 (Text.greatest?_mem h)
  rw [Version.DottedNumber.ofString?] at ho
  split at ho
  · obtain rfl := Option.some.inj ho
    exact hv
  · cases ho

theorem rank_chosen_mem {versions starts : List String} {lines v : String}
    (h : (History.rank versions lines starts).chosen = some v) : v ∈ versions := by
  obtain ⟨c, hc, rfl⟩ := Option.map_eq_some_iff.1 h
  obtain ⟨v, hv, ho⟩ := List.mem_filterMap.1 (Text.greatest?_mem hc)
  obtain ⟨i, -, rfl⟩ := Option.map_eq_some_iff.1 ho
  exact hv

theorem numericRanking_chosen_mem {name : String} {versions : List String} {r : Resolved}
    (h : numericRanking name versions = .ok r) : r.chosen ∈ versions := by
  unfold numericRanking at h
  split at h
  · next latest hl =>
    cases h
    exact latest?_text_mem hl
  · cases h

theorem historicalRanking_chosen_mem {policy : Policy} {annotate : Except Unresolved String}
    {name : String} {versions : List String} {r : Resolved}
    (h : historicalRanking policy annotate name versions = .ok r) : r.chosen ∈ versions := by
  unfold historicalRanking at h
  split at h
  · cases h
  · split at h
    · next chosen hc =>
      cases h
      exact rank_chosen_mem hc
    · cases h

/-- Ranking chooses one of the versions that the catalog lists. -/
theorem ranking_chosen_mem {policy : Policy} {annotate : Except Unresolved String} {name : String}
    {versions : List String} {r : Resolved} (h : ranking policy annotate name versions = .ok r) :
    r.chosen ∈ versions := by
  rw [ranking] at h
  split at h
  · exact numericRanking_chosen_mem h
  · exact historicalRanking_chosen_mem h

theorem plain_toString (n : Nat) : Plain (toString n).toList := by
  intro c hc
  rw [Nat.toString_eq_repr, Nat.toList_repr] at hc
  have hd := Nat.isDigit_of_mem_toDigits (by omega) (by omega) hc
  cases hq : isPinQuote c with
  | false => rfl
  | true =>
    rw [isPinQuote, Bool.or_eq_true, beq_iff_eq, beq_iff_eq] at hq
    rcases hq with rfl | rfl <;> cases hd

theorem floorRange_major (v : Version.SemanticVersion) :
    (Override.floorRange .major v).toList =
      '[' :: (['>', '='] ++ ((toString v.major).toList ++ [']'])) := by
  have h : Override.floorRange .major v = "[>=" ++ toString v.major ++ "]" := rfl
  simp [h]

theorem floorRange_majorMinor (v : Version.SemanticVersion) :
    (Override.floorRange .majorMinor v).toList =
      '[' :: (['>', '='] ++ ((toString v.major).toList ++ (['.'] ++
        ((toString v.minor).toList ++ [']'])))) := by
  have h : Override.floorRange .majorMinor v =
      "[>=" ++ toString v.major ++ "." ++ toString v.minor ++ "]" := rfl
  simp [h]

/-- A floor is numbers in brackets. -/
theorem floorRange_toList (precision : FloorDepth) (v : Version.SemanticVersion) :
    ∃ rest, (Override.floorRange precision v).toList = '[' :: rest ∧ Plain rest := by
  have hopen : Plain ['>', '='] := by decide
  have hdot : Plain ['.'] := by decide
  have hclose : Plain [']'] := by decide
  cases precision with
  | major =>
    exact ⟨_, floorRange_major v, plain_append.2 ⟨hopen, plain_append.2 ⟨plain_toString _, hclose⟩⟩⟩
  | majorMinor =>
    exact ⟨_, floorRange_majorMinor v, plain_append.2 ⟨hopen, plain_append.2 ⟨plain_toString _,
      plain_append.2 ⟨hdot, plain_append.2 ⟨plain_toString _, hclose⟩⟩⟩⟩⟩

theorem isPinWord_floorRange (precision : FloorDepth) (v : Version.SemanticVersion) :
    isPinWord (Override.floorRange precision v).toList = false := by
  obtain ⟨rest, h, -⟩ := floorRange_toList precision v
  rw [h]
  rfl

/-- What a rule gives is a floor or the range of the rule. -/
theorem Override.apply_ok {rule : Override} {name declared chosen : String}
    (h : rule.apply name declared = .ok chosen) :
    (∃ precision v, chosen = floorRange precision v) ∨ rule = .range chosen := by
  cases rule with
  | floor precision =>
    rw [apply] at h
    split at h
    · next v _ => exact .inl ⟨precision, v, (Except.ok.inj h).symm⟩
    · cases h
  | range expr => exact .inr (congrArg range (Except.ok.inj h))
  | exact => cases h

def plainAnswer : Except Unresolved (List String) → Bool
  | .ok versions => versions.all fun v => decide (Plain v.toList)
  | .error _ => true

def plainRule : Override → Bool
  | .range expr => decide (Plain expr.toList)
  | _ => true

/-- Answers that are kept in memory can be looked through. -/
theorem quoteFree_of_kept {s : Setup} {m : KeptAnswers}
    (hv : m.versions.toList.all (fun p => plainAnswer p.2) = true)
    (hr : s.overrides.toList.all (fun p => plainRule p.2) = true) : s.QuoteFree m.toSource where
  versions name versions h v hmem := by
    simp only [KeptAnswers.toSource] at h
    cases hk : m.versions[name]? with
    | none =>
      rw [hk] at h
      cases h
    | some known =>
      rw [hk] at h
      obtain rfl : known = .ok versions := h
      have hp := List.all_eq_true.1 hv _ (Std.ExtTreeMap.mem_toList_iff_getElem?_eq_some.2 hk)
      exact of_decide_eq_true (List.all_eq_true.1 hp v hmem)
  ranges name expr h := by
    have hp := List.all_eq_true.1 hr _ (Std.ExtTreeMap.mem_toList_iff_getElem?_eq_some.2 h)
    exact of_decide_eq_true hp

theorem quoteFree_sample : Setup.standard.QuoteFree KeptAnswers.sample.toSource :=
  quoteFree_of_kept (by decide +kernel) (by decide +kernel)

namespace Entry

variable {e : Entry} {policy : Policy} {name declared : String} {versions : List String}
  {r : Resolved}

/-- A chosen version holds no quotation mark if the catalog and the rule hold none. -/
theorem choose_plain (hv : ∀ v ∈ versions, Plain v.toList)
    (hr : ∀ expr, e.rule = some (.range expr) → Plain expr.toList)
    (h : e.choose policy name declared versions = .ok r) : Plain r.chosen.toList := by
  rw [choose] at h
  split at h
  · next rule hrule =>
    split at h
    · cases h
    · next chosen hc =>
      cases h
      rcases Override.apply_ok hc with ⟨precision, v, rfl⟩ | rfl
      · obtain ⟨rest, hl, hp⟩ := floorRange_toList precision v
        rw [hl]
        exact plain_cons.2 ⟨by decide, hp⟩
      · exact hr chosen hrule
  · exact hv _ (ranking_chosen_mem h)

/-- A chosen version in the grammar of tokens is chosen again for a declaration at it. -/
theorem choose_again (h : e.choose policy name declared versions = .ok r)
    (hw : isPinWord r.chosen.toList = true) :
    e.choose policy name r.chosen versions = .ok r := by
  unfold choose at h ⊢
  split at h
  · next rule hrule =>
    split at h
    · cases h
    · next chosen hc =>
      cases h
      rcases Override.apply_ok hc with ⟨precision, v, rfl⟩ | rfl
      · rw [isPinWord_floorRange] at hw
        cases hw
      · rfl
  · exact h

end Entry

end RecipePins
