import Mathlib.Data.List.DropRight
import Mathlib.Data.List.TakeWhile
import RecipePins.Text.CharClass
import RecipePins.Text.Split

/-!
# Words and blanks in a text

Where a word can stand in a text that is put together of pieces, what trimming leaves of it, and
classes of characters that exclude each other.
-/
namespace RecipePins.Text

theorem contains_iff_infix (part s : List Char) : contains part s = true ↔ part <:+: s := by
  induction s with
  | nil => simp [contains, List.infix_nil]
  | cons c s ih =>
    rw [contains, Bool.or_eq_true, ih, List.infix_cons_iff, List.isPrefixOf_iff_prefix]

/-- A word does not reach across a character that it lacks. -/
theorem infix_append_cons_iff {w a b : List Char} {c : Char} (hc : c ∉ w) :
    w <:+: a ++ c :: b ↔ w <:+: a ∨ w <:+: b := by
  have start {v : List Char} (hv : v <+: c :: b) (hcv : c ∉ v) : v = [] := by
    rcases List.prefix_cons_iff.1 hv with rfl | ⟨t, rfl, -⟩
    · rfl
    · exact absurd List.mem_cons_self hcv
  rw [List.infix_append_iff, List.infix_cons_iff]
  constructor
  · rintro (h | (h | h) | ⟨v, v', rfl, hv, hv'⟩)
    · exact .inl h
    · rw [start h hc]
      exact .inl (List.nil_infix)
    · exact .inr h
    · rw [start hv' fun hm => hc (List.mem_append_right v hm), List.append_nil]
      exact .inl hv.isInfix
  · rintro (h | h)
    · exact .inl h
    · exact .inr (.inl (.inr h))

theorem infix_append_of_lacks {w m b : List Char} (h : ∀ c ∈ m, c ∉ w) :
    w <:+: m ++ b ↔ w <:+: b := by
  induction m with
  | nil => rfl
  | cons c m ih =>
    have hs := infix_append_cons_iff (a := []) (b := m ++ b) (h c List.mem_cons_self)
    rw [List.nil_append] at hs
    rw [List.cons_append, hs, ih fun d hd => h d (List.mem_cons_of_mem c hd), List.infix_nil]
    exact or_iff_right_of_imp fun hw => hw ▸ List.nil_infix

/-- A word does not reach across a text of characters that it lacks. -/
theorem infix_append_append_iff {w a m b : List Char} (hm : m ≠ []) (h : ∀ c ∈ m, c ∉ w) :
    w <:+: a ++ (m ++ b) ↔ w <:+: a ∨ w <:+: b := by
  cases m with
  | nil => exact absurd rfl hm
  | cons c m =>
    rw [List.cons_append, infix_append_cons_iff (h c List.mem_cons_self),
      infix_append_of_lacks fun d hd => h d (List.mem_cons_of_mem c hd)]

theorem stripStart?_append (p rest : List Char) : Text.stripStart? p (p ++ rest) = some rest := by
  induction p with
  | nil => rfl
  | cons c p ih => rw [List.cons_append, Text.stripStart?, if_pos rfl, ih]

/-- A beginning that a text does not have is not taken off. -/
theorem stripStart?_eq_none {p s : List Char} (h : ¬ p <+: s) : Text.stripStart? p s = none := by
  induction p generalizing s with
  | nil => exact absurd List.nil_prefix h
  | cons c p ih =>
    cases s with
    | nil => rfl
    | cons d s =>
      rw [Text.stripStart?]
      split
      · next he => exact ih fun hp => h (List.cons_prefix_cons.2 ⟨he, hp⟩)
      · rfl

theorem mem_of_cons_eq_append {c : Char} {a b s : List Char} (ha : a ≠ []) (h : c :: s = a ++ b) :
    c ∈ a := by
  cases a with
  | nil => exact absurd rfl ha
  | cons d a => exact (List.cons.inj h).1 ▸ List.mem_cons_self

/-- Texts cut at the first place of a character are cut at one place. -/
theorem eq_of_append_cons_eq {a b s t : List Char} {c : Char} (ha : c ∉ a) (hb : c ∉ b)
    (h : a ++ c :: s = b ++ c :: t) : a = b ∧ s = t := by
  have hcut {x : List Char} (hx : c ∉ x) (r : List Char) : (x ++ c :: r).takeWhile (· != c) = x := by
    rw [List.takeWhile_append_of_pos, List.takeWhile_cons_of_neg (by simp), List.append_nil]
    intro d hd
    simpa using fun he : d = c => hx (he ▸ hd)
  obtain rfl : a = b := by rw [← hcut ha s, h, hcut hb t]
  exact ⟨rfl, (List.cons.inj (List.append_cancel_left h)).2⟩

def blankCodes : List Nat :=
  [9, 10, 11, 12, 13, 0x20, 0x85, 0xA0, 0x1680, 0x2000, 0x2001, 0x2002, 0x2003, 0x2004, 0x2005, 0x2006,
    0x2007, 0x2008, 0x2009, 0x200A, 0x2028, 0x2029, 0x202F, 0x205F, 0x3000]

theorem toNat_mem_blankCodes {c : Char} (h : isBlank c = true) : c.toNat ∈ blankCodes := by
  simp only [isBlank, Bool.or_eq_true, Bool.and_eq_true, decide_eq_true_eq, beq_iff_eq] at h
  simp only [blankCodes, List.mem_cons, List.not_mem_nil, or_false]
  omega

/-- A class that holds of no blank code has no blank. -/
theorem isBlank_of_blankCodes {p : Char → Bool} (hall : ∀ n ∈ blankCodes, p (Char.ofNat n) = false)
    {c : Char} (h : p c = true) : isBlank c = false := by
  rw [← Bool.not_eq_true]
  intro hb
  have hp := hall c.toNat (toNat_mem_blankCodes hb)
  rw [Char.ofNat_toNat, h] at hp
  cases hp

/-- No blank is a word character. -/
theorem isBlank_of_isWord {c : Char} (h : isWord c = true) : isBlank c = false :=
  isBlank_of_blankCodes (by decide +kernel) h

/-- No blank is a digit of any script. -/
theorem isBlank_of_isDecimalDigit {c : Char} (h : isDecimalDigit c = true) : isBlank c = false :=
  isBlank_of_blankCodes (by decide +kernel) h

theorem isBlank_of_isDigit {c : Char} (h : c.isDigit = true) : isBlank c = false := by
  apply isBlank_of_isWord
  have hlt : c.toNat ≤ 57 := (Char.isDigit_iff_toNat.1 h).2
  rw [isWord, if_pos (by omega), Char.isAlphanum, h, Bool.or_true, Bool.true_or]

theorem isLower_iff_toNat {c : Char} : c.isLower = true ↔ 97 ≤ c.toNat ∧ c.toNat ≤ 122 := by
  have h : c.isLower = (decide (97 ≤ c.val) && decide (c.val ≤ 122)) := rfl
  rw [h, Bool.and_eq_true, decide_eq_true_iff, decide_eq_true_iff, UInt32.le_iff_toNat_le,
    UInt32.le_iff_toNat_le]
  rfl

theorem isLower_of_isDigit {c : Char} (h : c.isDigit = true) : c.isLower = false := by
  have hle : c.toNat ≤ 57 := (Char.isDigit_iff_toNat.1 h).2
  rw [← Bool.not_eq_true, isLower_iff_toNat]
  omega

theorem isUpper_iff_toNat {c : Char} : c.isUpper = true ↔ 65 ≤ c.toNat ∧ c.toNat ≤ 90 := by
  have h : c.isUpper = decide (65 ≤ c.val ∧ c.val ≤ 90) := rfl
  rw [h, decide_eq_true_iff, UInt32.le_iff_toNat_le, UInt32.le_iff_toNat_le]
  rfl

theorem isAlpha_of_isDigit {c : Char} (h : c.isDigit = true) : c.isAlpha = false := by
  have hle : c.toNat ≤ 57 := (Char.isDigit_iff_toNat.1 h).2
  have halpha : c.isAlpha = (c.isUpper || c.isLower) := rfl
  rw [halpha, isLower_of_isDigit h, Bool.or_false, ← Bool.not_eq_true, isUpper_iff_toNat]
  omega

theorem isBlank_of_isLower {c : Char} (h : c.isLower = true) : isBlank c = false := by
  apply isBlank_of_isWord
  have hlt : c.toNat ≤ 122 := (isLower_iff_toNat.1 h).2
  have hword : c.isAlphanum = (c.isUpper || c.isLower || c.isDigit) := rfl
  rw [isWord, if_pos (by omega), hword, h, Bool.or_true, Bool.true_or, Bool.true_or]

/-- Trimming stops at the last character that is no blank. -/
theorem trimEnd_append_cons {a b : List Char} {c : Char} (hc : isBlank c = false) :
    trimEnd (a ++ c :: b) = a ++ c :: trimEnd b := by
  rw [trimEnd, trimEnd, List.reverse_append, List.reverse_cons, List.append_assoc, List.dropWhile_append,
    List.singleton_append, List.dropWhile_cons_of_neg (by simp [hc])]
  split
  · next he =>
    rw [List.isEmpty_iff.1 he]
    simp
  · simp

theorem trimEnd_prefix_self (s : List Char) : trimEnd s <+: s :=
  List.rdropWhile_prefix isBlank s

theorem trim_subset (s : List Char) : trim s ⊆ s := fun _ hc =>
  (List.dropWhile_suffix isBlank).subset ((trimEnd_prefix_self _).subset hc)

/-- What is trimmed off stands in front of the rest and behind it. -/
theorem exists_trim (s : List Char) :
    ∃ lead tail, s = lead ++ (trim s ++ tail) ∧ s.dropWhile isBlank = trim s ++ tail := by
  obtain ⟨tail, htail⟩ := trimEnd_prefix_self (s.dropWhile isBlank)
  have htrim : s.dropWhile isBlank = trim s ++ tail := htail.symm
  exact ⟨s.takeWhile isBlank, tail, by rw [← htrim, List.takeWhile_append_dropWhile], htrim⟩

/-- Trimming both ends takes blanks away at the start, besides those that trimming the end does. -/
theorem trimEnd_eq_append_trim (s : List Char) :
    ∃ blanks, (∀ c ∈ blanks, isBlank c = true) ∧ trimEnd s = blanks ++ trim s ∧
      (trim s = [] → blanks = []) := by
  have hsplit := List.takeWhile_append_dropWhile (p := isBlank) (l := s)
  have hall := List.all_eq_true.1 (List.all_takeWhile (p := isBlank) (l := s))
  cases hd : s.dropWhile isBlank with
  | nil =>
    refine ⟨[], by simp, ?_, fun _ => rfl⟩
    rw [hd, List.append_nil] at hsplit
    rw [List.nil_append, trim, hd, ← hsplit, trimEnd, List.dropWhile_eq_nil_iff.2]
    · rfl
    · exact fun c hc => hall c (List.mem_reverse.1 hc)
  | cons c rest =>
    have hc : isBlank c = false := not_of_mem_head?_dropWhile (by rw [hd]; rfl)
    have htrim : trim s = c :: trimEnd rest := by
      rw [trim, hd]
      exact trimEnd_append_cons (a := []) hc
    refine ⟨s.takeWhile isBlank, hall, ?_, ?_⟩
    · rw [htrim, ← trimEnd_append_cons hc, ← hd, hsplit]
    · rw [htrim]
      exact fun h => by cases h

end RecipePins.Text
