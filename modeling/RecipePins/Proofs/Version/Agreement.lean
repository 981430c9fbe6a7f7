import RecipePins.Proofs.Text.Fields
import RecipePins.Proofs.Version.Latest
import RecipePins.Proofs.Version.Runs

/-!
# Dotted numbers as free-form versions

The runs of a dotted number are its components, so its key weighs the numbers that it is made of and keys
of dotted numbers are ordered as these are.
-/
namespace RecipePins.Version
open Text

theorem charKind_of_isDigitRun {s : List Char} (h : isDigitRun s = true) :
    s ≠ [] ∧ ∀ c ∈ s, charKind c = .digit := by
  obtain ⟨hne, hdigit⟩ := isDigitRun_iff.1 h
  exact ⟨hne, fun c hc => (isDigit_iff_charKind c).1 (hdigit c hc)⟩

theorem exists_digit_of_isDotted {s : List Char} (h : isDotted s = true) :
    ∃ d rest, s = d :: rest ∧ d.isDigit = true := by
  cases s with
  | nil => cases h
  | cons d rest =>
    refine ⟨d, rest, rfl, ?_⟩
    rw [isDotted, fields] at h
    split at h
    · simp [isDigitRun] at h
    · cases hf : fields '.' rest with
      | nil => exact absurd hf (fields_ne_nil '.' rest)
      | cons f fs =>
        simp only [hf, consField, isDigitRun, List.all_cons, Bool.and_eq_true] at h
        exact h.1.2.1

/-- Between dots each component is a run of its own. -/
theorem maximalRuns_of_isDotted {s : List Char} (h : isDotted s = true) :
    maximalRuns s = fields '.' s := by
  induction s using fields_induction '.' with
  | last f hf =>
    rw [isDotted, fields_eq_singleton hf, List.all_cons, List.all_nil, Bool.and_true] at h
    obtain ⟨hne, hdigit⟩ := charKind_of_isDigitRun h
    have hcut : maximalRuns (f ++ []) = [f] ++ maximalRuns [] :=
      maximalRuns_append hne hdigit (by simp)
    rw [← List.append_nil f, hcut, List.append_nil, fields_eq_singleton hf]
    rfl
  | cut f rest hf ih =>
    rw [isDotted, fields_append_cons hf, List.all_cons, Bool.and_eq_true] at h
    obtain ⟨hne, hdigit⟩ := charKind_of_isDigitRun h.1
    rw [maximalRuns_append hne hdigit (by simp [charKind]), maximalRuns_separator rfl, ih h.2,
      fields_append_cons hf]
    rfl

namespace DottedNumber

theorem weights_text (v : DottedNumber) : weights v.text = v.values.map .number := by
  rw [weights, maximalRuns_of_isDotted v.dotted, values, List.map_map]
  apply List.map_congr_left
  intro ds hds
  rw [Weight.ofRun, if_pos (List.all_eq_true.2 (isDigit_of_mem_components hds)), Function.comp_apply]

/-- The key of a dotted number is ordered as the dotted number is. -/
theorem key_order (v w : DottedNumber) :
    (RunKey.ofString v.text).order (.ofString w.text) = v.order w := by
  rw [RunKey.ofString_order, weights_text, weights_text, order_eq_compare, List.compare_eq_compareLex]
  exact compareLex_map fun _ _ _ _ => rfl

end DottedNumber

end RecipePins.Version
