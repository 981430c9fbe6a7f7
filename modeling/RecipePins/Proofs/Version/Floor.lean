import RecipePins.Proofs.Version.Latest
import RecipePins.Proofs.Version.Lenient

/-!
# Floors of dotted numbers

A floor is the range from the first one or two numbers of the declared version on. Versions are made of
numbers of any size, but a floor reads them in 64 bits. So a first number that does not fit leaves no
floor, and a second one that does not fit is taken for none at all, which puts the floor too low.
-/
namespace RecipePins
open Text Version Override

namespace Version.DottedNumber

variable (v : DottedNumber)

def major : Nat :=
  v.values.getD 0 0

/-- The second number of a version, zero if there is none. -/
def minor : Nat :=
  v.values.getD 1 0

theorem components_ne_nil : v.components ≠ [] :=
  fields_ne_nil '.' v.text.toList

theorem isDigitRun_of_mem_components {ds : List Char} (h : ds ∈ v.components) : isDigitRun ds = true :=
  List.all_eq_true.1 v.dotted ds h

/-- The two numbers that a floor is made of: only what fits in 64 bits counts. -/
theorem leadingPair?_text : leadingPair? (fields '.' v.text.toList) =
    if v.major < wordLimit then some (v.major, if v.minor < wordLimit then v.minor else 0) else none := by
  change leadingPair? v.components = _
  obtain ⟨first, rest, hc⟩ := List.exists_cons_of_ne_nil v.components_ne_nil
  have hvalues : v.values = digitsValue first :: rest.map digitsValue := by rw [values, hc, List.map_cons]
  have hmajor : v.major = digitsValue first := by rw [major, hvalues, List.getD_cons_zero]
  have hfirst := v.isDigitRun_of_mem_components (hc ▸ List.mem_cons_self)
  have hsecond : (rest.head?.bind readWord?).getD 0 = if v.minor < wordLimit then v.minor else 0 := by
    rw [minor, hvalues, List.getD_cons_succ]
    cases rest with
    | nil => exact (ite_self _).symm
    | cons second rest =>
      have hrun := v.isDigitRun_of_mem_components (hc ▸ List.mem_cons_of_mem _ List.mem_cons_self)
      rw [List.head?_cons, Option.bind_some, readWord?_of_isDigitRun hrun, List.map_cons,
        List.getD_cons_zero]
      split <;> rfl
  rw [hc, leadingPair?, readWord?_of_isDigitRun hfirst, hsecond, hmajor, apply_ite (Option.map _),
    Option.map_some, Option.map_none]

/-- The floor of a dotted number, or its failure. -/
theorem apply_floor_text (precision : FloorDepth) (package : String) :
    (floor precision).apply package v.text =
      if v.major < wordLimit then
        .ok (rangeFrom precision (v.major, if v.minor < wordLimit then v.minor else 0))
      else .error (.unresolvable package s!"cannot derive a version floor from `{v.text}`") := by
  rw [apply_floor, floorOf, leadingPair?_text]
  by_cases h : v.major < wordLimit
  · simp only [if_pos h]
  · simp only [if_neg h]

end Version.DottedNumber

/-- A range of two numbers tells the second one. -/
theorem rangeFrom_majorMinor_inj {major minor minor' : Nat}
    (h : rangeFrom .majorMinor (major, minor) = rangeFrom .majorMinor (major, minor')) : minor = minor' := by
  simp only [rangeFrom, String.append_left_inj, String.append_right_inj] at h
  have hdecimal : decimal minor = decimal minor' := by
    rw [Nat.toString_eq_repr, Nat.toString_eq_repr] at h
    rw [decimal, decimal, ← Nat.toList_repr, ← Nat.toList_repr, h]
  rw [← digitsValue_decimal minor, hdecimal, digitsValue_decimal]

/-- What does not fit shows in a range of two numbers only. -/
theorem rangeFrom_fitting_iff {precision : FloorDepth} {major minor : Nat} :
    rangeFrom precision (major, if minor < wordLimit then minor else 0) = rangeFrom precision (major, minor) ↔
      (precision = .majorMinor → minor < wordLimit) := by
  cases precision with
  | major => exact iff_of_true rfl (fun h => by cases h)
  | majorMinor =>
    constructor
    · intro h _
      by_contra hminor
      rw [if_neg hminor] at h
      have hzero := rangeFrom_majorMinor_inj h
      have hlimit : 0 < wordLimit := by decide
      omega
    · intro h
      rw [if_pos (h rfl)]

/-- The floor of a dotted number is the range from its numbers on exactly if those that it is made of fit in
64 bits. If the first one does not fit, there is no floor; if only the second one does not, it counts as
zero. -/
theorem floor_exact_iff_fits (v : DottedNumber) (precision : FloorDepth) (package : String) :
    ((floor precision).apply package v.text = .ok (rangeFrom precision (v.major, v.minor)) ↔
      v.major < wordLimit ∧ (precision = .majorMinor → v.minor < wordLimit)) ∧
    (wordLimit ≤ v.major → (floor precision).apply package v.text =
      .error (.unresolvable package s!"cannot derive a version floor from `{v.text}`")) ∧
    (v.major < wordLimit → wordLimit ≤ v.minor →
      (floor precision).apply package v.text = .ok (rangeFrom precision (v.major, 0))) := by
  rw [v.apply_floor_text]
  refine ⟨?_, fun hmajor => if_neg (Nat.not_lt.2 hmajor), fun hmajor hminor => ?_⟩
  · split
    · next hmajor => rw [Except.ok.injEq, rangeFrom_fitting_iff, and_iff_right hmajor]
    · next hmajor => exact iff_of_false (fun h => by cases h) fun h => hmajor h.1
  · rw [if_pos hmajor, if_neg (Nat.not_lt.2 hminor)]

def Version.DottedNumber.hugeMinor : DottedNumber := ⟨"3.18446744073709551616", by decide⟩

def Version.DottedNumber.hugeMajor : DottedNumber := ⟨"18446744073709551616.1", by decide⟩

theorem floor_of_huge_numbers :
    (floor .major).apply "cmake" "3.18446744073709551616" = .ok "[>=3]" ∧
    (floor .majorMinor).apply "cmake" "3.18446744073709551616" = .ok "[>=3.0]" ∧
    (floor .major).apply "cmake" "18446744073709551616.1" = .error (.unresolvable "cmake"
      "cannot derive a version floor from `18446744073709551616.1`") := by
  obtain ⟨hexact, -, -⟩ := floor_exact_iff_fits .hugeMinor .major "cmake"
  obtain ⟨-, -, hlow⟩ := floor_exact_iff_fits .hugeMinor .majorMinor "cmake"
  obtain ⟨-, hnone, -⟩ := floor_exact_iff_fits .hugeMajor .major "cmake"
  have hmajor : DottedNumber.hugeMinor.major < wordLimit := by decide
  exact ⟨hexact.2 ⟨hmajor, fun h => by cases h⟩, hlow hmajor (by decide), hnone (by decide)⟩

/-- A floor may lie below the version that it is made from. -/
theorem not_floor_exact_always :
    ¬ ∀ (v : DottedNumber) (precision : FloorDepth) (package : String),
      (floor precision).apply package v.text = .ok (rangeFrom precision (v.major, v.minor)) := by
  intro h
  have hlow : (floor .majorMinor).apply "cmake" DottedNumber.hugeMinor.text = .ok "[>=3.0]" := by
    decide +kernel
  rw [h] at hlow
  exact absurd (Except.ok.inj hlow) (by decide +kernel)

end RecipePins
