import Mathlib.Data.List.Induction
import RecipePins.Text.Digits
import RecipePins.Text.Split
import RecipePins.Proofs.Text.Lexicographic

/-!
# The values of digit runs

A run of digits is determined by its length and its value, and runs are ordered by their values.
-/
namespace RecipePins.Text

theorem isDigitRun_iff {s : List Char} : isDigitRun s = true ↔ s ≠ [] ∧ ∀ c ∈ s, c.isDigit = true := by
  rw [isDigitRun, Bool.and_eq_true, Bool.not_eq_true', List.isEmpty_eq_false_iff, List.all_eq_true]

theorem digitsValue_append_singleton (ds : List Char) (d : Char) :
    digitsValue (ds ++ [d]) = 10 * digitsValue ds + digitValue d := by
  simp [digitsValue]

theorem digitsValue_replicate_zero_append (n : Nat) (ds : List Char) :
    digitsValue (List.replicate n '0' ++ ds) = digitsValue ds := by
  have hzeros : Nat.ofDigitChars 10 (List.replicate n '0') 0 = 0 := by
    simp [Nat.ofDigitChars_replicate_zero]
  change Nat.ofDigitChars 10 (List.replicate n '0' ++ ds) 0 = Nat.ofDigitChars 10 ds 0
  rw [Nat.ofDigitChars_append, hzeros]

theorem digitsValue_decimal (n : Nat) : digitsValue (decimal n) = n :=
  Nat.ofDigitChars_ten_toDigits

theorem digitValue_lt {d : Char} (hd : d.isDigit = true) : digitValue d < 10 := by
  have h := Char.isDigit_iff_toNat.1 hd
  simp only [digitValue, Char.reduceToNat] at h ⊢
  omega

theorem eq_of_digitValue_eq {c d : Char} (hc : c.isDigit = true) (hd : d.isDigit = true)
    (h : digitValue c = digitValue d) : c = d := by
  have hc := Char.isDigit_iff_toNat.1 hc
  have hd := Char.isDigit_iff_toNat.1 hd
  simp only [digitValue, Char.reduceToNat] at h hc hd
  exact Char.toNat_inj.1 (by omega)

theorem digitsValue_lt {ds : List Char} (h : ∀ d ∈ ds, d.isDigit = true) :
    digitsValue ds < Nat.pow 10 ds.length := by
  induction ds using List.reverseRecOn with
  | nil => simp [digitsValue]
  | append_singleton ds d ih =>
    have hd := digitValue_lt (h d (by simp))
    have hds := ih fun c hc => h c (by simp [hc])
    rw [digitsValue_append_singleton, List.length_append, List.length_singleton]
    change _ < Nat.pow 10 ds.length * 10
    omega

theorem eq_of_digitsValue_eq {a b : List Char} (hl : a.length = b.length)
    (ha : ∀ d ∈ a, d.isDigit = true) (hb : ∀ d ∈ b, d.isDigit = true)
    (h : digitsValue a = digitsValue b) : a = b := by
  induction a using List.reverseRecOn generalizing b with
  | nil => exact (List.eq_nil_of_length_eq_zero hl.symm).symm
  | append_singleton a c ih =>
    rcases List.eq_nil_or_concat b with rfl | ⟨b, d, rfl⟩
    · simp at hl
    · simp only [List.concat_eq_append] at hl hb h ⊢
      rw [digitsValue_append_singleton, digitsValue_append_singleton] at h
      have hc := ha c (by simp)
      have hd := hb d (by simp)
      have hclt := digitValue_lt hc
      have hdlt := digitValue_lt hd
      have hlast : c = d := eq_of_digitValue_eq hc hd (by omega)
      have hrest : a = b :=
        ih (by simpa using hl) (fun e he => ha e (by simp [he])) (fun e he => hb e (by simp [he])) (by omega)
      rw [hlast, hrest]

theorem digitsValue_cons (d : Char) (ds : List Char) :
    digitsValue (d :: ds) = Nat.pow 10 ds.length * digitValue d + digitsValue ds := by
  change Nat.ofDigitChars 10 (d :: ds) 0 = Nat.pow 10 ds.length * digitValue d + Nat.ofDigitChars 10 ds 0
  rw [Nat.ofDigitChars_cons, Nat.ofDigitChars_eq_ofDigitChars_zero, Nat.mul_zero, Nat.zero_add]
  rfl

theorem digitsValue_dropZeros (ds : List Char) : digitsValue (dropZeros ds) = digitsValue ds := by
  induction ds with
  | nil => rfl
  | cons d ds ih =>
    by_cases hd : d = '0'
    · rw [dropZeros, List.dropWhile_cons_of_pos (by simpa using hd), ← dropZeros, ih, digitsValue_cons, hd]
      simp [digitValue]
    · rw [dropZeros, List.dropWhile_cons_of_neg (by simpa using hd)]

theorem isDigit_of_mem_dropZeros {ds : List Char} (h : ∀ d ∈ ds, d.isDigit = true) :
    ∀ d ∈ dropZeros ds, d.isDigit = true :=
  fun d hd => h d ((List.dropWhile_suffix _).subset hd)

theorem head?_dropZeros_ne (ds : List Char) : (dropZeros ds).head? ≠ some '0' :=
  fun h => absurd (not_of_mem_head?_dropWhile h) (by decide)

theorem digitValue_lt_iff {c d : Char} (hc : c.isDigit = true) (hd : d.isDigit = true) :
    digitValue c < digitValue d ↔ c < d := by
  have hc := Char.isDigit_iff_toNat.1 hc
  have hd := Char.isDigit_iff_toNat.1 hd
  have hlt : c < d ↔ c.toNat < d.toNat := Iff.rfl
  simp only [digitValue, Char.reduceToNat] at hc hd ⊢
  rw [hlt]
  omega

/-- Of two runs of one length the one below in the order of texts has the smaller value. -/
theorem digitsValue_lt_of_lt {a b : List Char} (hl : a.length = b.length)
    (ha : ∀ d ∈ a, d.isDigit = true) (hb : ∀ d ∈ b, d.isDigit = true) (h : a < b) :
    digitsValue a < digitsValue b := by
  induction h with
  | nil => simp at hl
  | @cons c a b _ ih =>
    have hl : a.length = b.length := by simpa using hl
    rw [List.forall_mem_cons] at ha hb
    rw [digitsValue_cons, digitsValue_cons, hl]
    exact Nat.add_lt_add_left (ih hl ha.2 hb.2) _
  | @rel c a d b hcd =>
    have hl : a.length = b.length := by simpa using hl
    rw [List.forall_mem_cons] at ha hb
    have hva := digitsValue_lt ha.2
    have hstep := Nat.mul_le_mul_left (Nat.pow 10 b.length) ((digitValue_lt_iff ha.1 hb.1).2 hcd)
    rw [digitsValue_cons, digitsValue_cons, hl]
    rw [hl] at hva
    rw [Nat.mul_succ] at hstep
    omega

theorem pow_le_digitsValue {d : Char} (hd : d.isDigit = true) (hz : d ≠ '0') (ds : List Char) :
    Nat.pow 10 ds.length ≤ digitsValue (d :: ds) := by
  have hpos : 1 ≤ digitValue d := by
    have hdigit := Char.isDigit_iff_toNat.1 hd
    have hne : d.toNat ≠ 48 := fun h => hz (Char.toNat_inj.1 h)
    simp only [digitValue, Char.reduceToNat] at hdigit ⊢
    omega
  rw [digitsValue_cons]
  exact Nat.le_add_right_of_le (Nat.le_mul_of_pos_right _ hpos)

/-- Of two runs the longer one has the greater value if it does not begin with a zero. -/
theorem digitsValue_lt_of_length_lt {a b : List Char} (hl : a.length < b.length)
    (ha : ∀ d ∈ a, d.isDigit = true) (hb : ∀ d ∈ b, d.isDigit = true) (hz : b.head? ≠ some '0') :
    digitsValue a < digitsValue b := by
  cases b with
  | nil => simp at hl
  | cons d b =>
    calc digitsValue a < Nat.pow 10 a.length := digitsValue_lt ha
      _ ≤ Nat.pow 10 b.length := Nat.pow_le_pow_right (by omega) (Nat.lt_succ_iff.1 hl)
      _ ≤ digitsValue (d :: b) :=
        pow_le_digitsValue (hb d List.mem_cons_self) (fun h => hz (congrArg some h)) b

/-- Digit runs are ordered by their values. -/
theorem compareDigits_eq {a b : List Char} (ha : ∀ d ∈ a, d.isDigit = true)
    (hb : ∀ d ∈ b, d.isDigit = true) :
    compareDigits a b = compare (digitsValue a) (digitsValue b) := by
  have ha := isDigit_of_mem_dropZeros ha
  have hb := isDigit_of_mem_dropZeros hb
  -- zeros in front add nothing to a value, and without them the longer run has the greater one
  rw [compareDigits, ← digitsValue_dropZeros a, ← digitsValue_dropZeros b]
  cases hl : compare (dropZeros a).length (dropZeros b).length with
  | lt =>
    exact (Nat.compare_eq_lt.2 (digitsValue_lt_of_length_lt (Nat.compare_eq_lt.1 hl) ha hb
      (head?_dropZeros_ne b))).symm
  | gt =>
    exact (Nat.compare_eq_gt.2 (digitsValue_lt_of_length_lt (Nat.compare_eq_gt.1 hl) hb ha
      (head?_dropZeros_ne a))).symm
  | eq =>
    have hl := Nat.compare_eq_eq.1 hl
    symm
    apply compare_eq_compare
    · exact fun h => Nat.compare_eq_lt.2 (digitsValue_lt_of_lt hl ha hb (compare_chars_eq_lt_iff.1 h))
    · exact fun h =>
        Nat.compare_eq_lt.2 (digitsValue_lt_of_lt hl.symm hb ha (compare_chars_eq_lt_iff.1 h))
    · exact congrArg digitsValue

theorem dropZeros_plainDigits (ds : List Char) : dropZeros (plainDigits ds) = dropZeros ds := by
  rw [plainDigits]
  split
  · next h =>
    rw [h]
    rfl
  · next d rest h =>
    have hd : d ≠ '0' := fun hz => head?_dropZeros_ne ds (by rw [h, hz, List.head?_cons])
    rw [h, dropZeros, List.dropWhile_cons_of_neg (by simpa using hd)]

theorem plainDigits_eq_iff {a b : List Char} : plainDigits a = plainDigits b ↔ dropZeros a = dropZeros b := by
  constructor
  · intro h
    rw [← dropZeros_plainDigits a, ← dropZeros_plainDigits b, h]
  · intro h
    rw [plainDigits, plainDigits, h]

theorem compareDigits_plainDigits (a b : List Char) :
    compareDigits (plainDigits a) (plainDigits b) = compareDigits a b := by
  simp only [compareDigits, dropZeros_plainDigits]

theorem compareDigits_eq_eq_iff {a b : List Char} :
    compareDigits a b = .eq ↔ dropZeros a = dropZeros b := by
  rw [compareDigits, Ordering.then_eq_eq, Std.LawfulEqOrd.compare_eq_iff_eq,
    Std.LawfulEqOrd.compare_eq_iff_eq, and_iff_right_iff_imp]
  exact congrArg List.length

theorem isDigit_of_mem_decimal {n : Nat} {d : Char} (h : d ∈ decimal n) : d.isDigit = true :=
  Nat.isDigit_of_mem_toDigits (by omega) (by omega) h

theorem isDigitRun_decimal (n : Nat) : isDigitRun (decimal n) = true :=
  isDigitRun_iff.2 ⟨Nat.toDigits_ne_nil, fun _ => isDigit_of_mem_decimal⟩

theorem readDigits?_eq_some_iff {s : List Char} {n : Nat} :
    readDigits? s = some n ↔ isDigitRun s = true ∧ digitsValue s = n ∧ n < wordLimit := by
  rw [readDigits?]
  split
  · next h =>
    rw [Bool.and_eq_true, decide_eq_true_iff] at h
    rw [Option.some.injEq]
    exact ⟨fun he => ⟨h.1, he, he ▸ h.2⟩, fun he => he.2.1⟩
  · next h =>
    rw [Bool.and_eq_true, decide_eq_true_iff] at h
    simp only [reduceCtorEq, false_iff]
    rintro ⟨hr, rfl, hn⟩
    exact h ⟨hr, hn⟩

/-- Numbers are written without needless zeros. -/
theorem head?_decimal {n : Nat} (h : 1 < (decimal n).length) : (decimal n).head? ≠ some '0' := by
  have hvalue := digitsValue_decimal n
  cases hd : decimal n with
  | nil => simp
  | cons d ds =>
    rw [List.head?_cons]
    intro hz
    obtain rfl := Option.some.inj hz
    have hlen : (decimal n).length = ds.length + 1 := by rw [hd, List.length_cons]
    have hlt : n < Nat.pow 10 ds.length := by
      rw [← hvalue, hd, digitsValue_cons, show digitValue '0' = 0 from rfl, Nat.mul_zero, Nat.zero_add]
      exact digitsValue_lt fun c hc => isDigit_of_mem_decimal (hd ▸ List.mem_cons_of_mem _ hc)
    have hle : (decimal n).length ≤ ds.length := (Nat.length_toDigits_le_iff (by omega) (by omega)).2 hlt
    omega

/-- A digit run without needless zeros is how its value is written. -/
theorem decimal_digitsValue {ds : List Char} (hne : ds ≠ []) (hd : ∀ d ∈ ds, d.isDigit = true)
    (hz : 1 < ds.length → ds.head? ≠ some '0') : decimal (digitsValue ds) = ds := by
  apply eq_of_digitsValue_eq ?_ (fun _ => isDigit_of_mem_decimal) hd (digitsValue_decimal _)
  have hle : (decimal (digitsValue ds)).length ≤ ds.length :=
    (Nat.length_toDigits_le_iff (by omega) (List.length_pos_iff.2 hne)).2 (digitsValue_lt hd)
  have hpos : 0 < (decimal (digitsValue ds)).length := Nat.length_toDigits_pos
  -- were the decimal shorter, the value would be below the place of the first digit, which is no zero
  by_contra hlen
  cases ds with
  | nil => exact hne rfl
  | cons d ds =>
    rw [List.length_cons] at hle hlen hz
    have hlt : digitsValue (d :: ds) < Nat.pow 10 ds.length :=
      (Nat.length_toDigits_le_iff (by omega) (by omega)).1 (by omega : (decimal _).length ≤ ds.length)
    have hge := pow_le_digitsValue (hd d List.mem_cons_self)
      (fun h => hz (by omega) (congrArg some h)) ds
    omega

end RecipePins.Text
