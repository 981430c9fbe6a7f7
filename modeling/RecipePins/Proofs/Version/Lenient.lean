import RecipePins.Proofs.Text.Fields
import RecipePins.Proofs.Version.Strict
import RecipePins.Resolve.Override

/-!
# The leading numbers of a version

A version that is read leniently has the numbers of its first two components, whether it has the strict
form or is made of its leading numbers. The floor of a rule therefore hangs on these components alone, and
neither a patch nor a pre-release nor a build bears on it.
-/
namespace RecipePins
open Text Version SemanticVersion

namespace Version

/-- The numbers of the first two components. The first one has to be a number; the second counts as zero if
it is missing or none. -/
def leadingPair? : List (List Char) → Option (Nat × Nat)
  | [] => none
  | first :: rest => (readWord? first).map fun major => (major, (rest.head?.bind readWord?).getD 0)

theorem leadingPair?_take (parts : List (List Char)) : leadingPair? (parts.take 2) = leadingPair? parts := by
  cases parts with
  | nil => rfl
  | cons first rest => cases rest <;> rfl

/-- What the leading numbers make has the first two of them. -/
theorem ofNumbers?_leadingNumbers (parts : List (List Char)) :
    (ofNumbers? (leadingNumbers parts)).map (fun v => (v.major, v.minor)) = leadingPair? parts := by
  cases parts with
  | nil => rfl
  | cons first rest =>
    rw [leadingNumbers, leadingPair?]
    cases hfirst : readWord? first with
    | none => rfl
    | some major =>
      cases rest with
      | nil => rfl
      | cons second rest =>
        rw [leadingNumbers]
        cases hsecond : readWord? second with
        | none => simp [ofNumbers?, hsecond]
        | some minor => cases leadingNumbers rest <;> simp [ofNumbers?, hsecond]

theorem readWord?_of_isDigitRun {ds : List Char} (h : isDigitRun ds = true) :
    readWord? ds = if digitsValue ds < wordLimit then some (digitsValue ds) else none := by
  have hread : readWord? ds = readDigits? ds := by
    rw [readWord?.eq_def]
    split
    -- a plus sign may stand before a number, but it is no digit
    · exact absurd ((isDigitRun_iff.1 h).2 '+' List.mem_cons_self) (by decide)
    · rfl
  rw [hread, readDigits?, h, Bool.true_and]
  simp only [decide_eq_true_eq]

theorem readWord?_decimal {n : Nat} (h : n < wordLimit) : readWord? (decimal n) = some n := by
  rw [readWord?_of_isDigitRun (isDigitRun_decimal n), digitsValue_decimal, if_pos h]

theorem dot_not_mem_decimal (n : Nat) : '.' ∉ decimal n :=
  fun h => absurd (isDigit_of_mem_decimal h) (by decide)

/-- The first two numbers of the strict form are the first two components. -/
theorem leadingPair?_toChars {v : SemanticVersion} (h : v.Valid) :
    leadingPair? (fields '.' v.toChars) = some (v.major, v.minor) := by
  rw [toChars, fields_append_cons (dot_not_mem_decimal _), fields_append_cons (dot_not_mem_decimal _),
    leadingPair?, readWord?_decimal h.major, List.head?_cons, Option.bind_some, readWord?_decimal h.minor]
  rfl

theorem leadingPair?_of_ofChars? {s : List Char} {v : SemanticVersion} (h : ofChars? s = some v) :
    leadingPair? (fields '.' s) = some (v.major, v.minor) := by
  obtain ⟨hv, rfl⟩ := ofChars?_eq_some_iff.1 h
  exact leadingPair?_toChars hv

theorem lenient?_leadingPair (s : String) :
    (lenient? s).map (fun v => (v.major, v.minor)) = leadingPair? (fields '.' s.toList) := by
  rw [lenient?]
  cases hs : ofChars? s.toList with
  | none => exact ofNumbers?_leadingNumbers _
  | some v => exact (leadingPair?_of_ofChars? hs).symm

end Version

namespace Override

/-- The range from some leading numbers on. -/
def rangeFrom : FloorDepth → Nat × Nat → String
  | .major, (major, _) => "[>=" ++ toString major ++ "]"
  | .majorMinor, (major, minor) => "[>=" ++ toString major ++ "." ++ toString minor ++ "]"

theorem floorRange_eq (precision : FloorDepth) (v : SemanticVersion) :
    floorRange precision v = rangeFrom precision (v.major, v.minor) := by
  cases precision <;> rfl

/-- The range that a floor gives from the components of the declared version, or its failure. -/
def floorOf (precision : FloorDepth) (package declared : String) : Except Unresolved String :=
  match leadingPair? (fields '.' declared.toList) with
  | some pair => .ok (rangeFrom precision pair)
  | none => .error (.unresolvable package s!"cannot derive a version floor from `{declared}`")

theorem apply_floor (precision : FloorDepth) (package declared : String) :
    (floor precision).apply package declared = floorOf precision package declared := by
  rw [apply, floorOf, ← lenient?_leadingPair]
  cases lenient? declared with
  | none => rfl
  | some v => exact congrArg Except.ok (floorRange_eq precision v)

theorem floorOf_eq_ok_iff {precision : FloorDepth} {package declared range : String} :
    floorOf precision package declared = .ok range ↔
      (leadingPair? (fields '.' declared.toList)).map (rangeFrom precision) = some range := by
  rw [floorOf]
  cases leadingPair? (fields '.' declared.toList) <;> simp

/-- A version is read leniently exactly if its first component is a number. It then has that number and
the one of its second component, zero if there is none, on the strict path, which reads the written forms of
valid versions, as on the other one. A floor is the range from these two numbers on, or fails, whatever else
stands in the declared version. -/
theorem floor_from_first_two_components (s : String) :
    (∀ v, ofChars? s.toList = some v ↔ v.Valid ∧ s.toList = v.toChars) ∧
    (∀ v, ofChars? s.toList = some v → ∃ w, ofNumbers? (leadingNumbers (fields '.' s.toList)) = some w ∧
      w.major = v.major ∧ w.minor = v.minor) ∧
    (lenient? s).map (fun v => (v.major, v.minor)) = leadingPair? (fields '.' s.toList) ∧
    ∀ precision package, (floor precision).apply package s = floorOf precision package s ∧
      ∀ t, (fields '.' t.toList).take 2 = (fields '.' s.toList).take 2 → ∀ range,
        (floor precision).apply package t = .ok range ↔ (floor precision).apply package s = .ok range := by
  refine ⟨fun v => ofChars?_eq_some_iff, fun v hv => ?fallback, lenient?_leadingPair s,
    fun precision package => ⟨apply_floor precision package s, fun t ht range => ?others⟩⟩
  case fallback =>
    have hpair := ofNumbers?_leadingNumbers (fields '.' s.toList)
    rw [leadingPair?_of_ofChars? hv, Option.map_eq_some_iff] at hpair
    obtain ⟨w, hw, he⟩ := hpair
    exact ⟨w, hw, Prod.mk.inj he⟩
  case others =>
    have hpair : leadingPair? (fields '.' t.toList) = leadingPair? (fields '.' s.toList) := by
      rw [← leadingPair?_take, ht, leadingPair?_take]
    rw [apply_floor, apply_floor, floorOf_eq_ok_iff, floorOf_eq_ok_iff, hpair]

theorem floor_of_release_candidate_and_of_suffixed :
    (∃ w, ofNumbers? (leadingNumbers (fields '.' "3.28.1-rc.2+b.01".toList)) = some w ∧
      w.major = 3 ∧ w.minor = 28) ∧
    ((floor .majorMinor).apply "cmake" "3.28.01w" = .ok "[>=3.28]" ↔
      (floor .majorMinor).apply "cmake" "3.28.1-rc.2+b.01" = .ok "[>=3.28]") ∧
    (floor .majorMinor).apply "cmake" "3.28.1-rc.2+b.01" = .ok "[>=3.28]" := by
  have hstrict : ofChars? "3.28.1-rc.2+b.01".toList = some ⟨3, 28, 1, "rc.2", "b.01"⟩ := by decide +kernel
  obtain ⟨-, hfallback, -, hfloor⟩ := floor_from_first_two_components "3.28.1-rc.2+b.01"
  obtain ⟨hrange, hothers⟩ := hfloor .majorMinor "cmake"
  exact ⟨hfallback _ hstrict, hothers "3.28.01w" (by decide +kernel) _, hrange.trans (by decide +kernel)⟩

end Override

end RecipePins
