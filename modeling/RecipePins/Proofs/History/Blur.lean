import RecipePins.Proofs.History.Reading

/-!
# Texts up to the choice of digits and signs

All timestamps look alike if digits are not told apart, and neither are the two signs. The reader of the end
of a line does not tell them apart, so that the end is read, or not, whatever timestamp stands in it. And a
timestamp has no part that looks like the beginning of another one, so that two of them in a line are the
same or apart.
-/
namespace RecipePins.History

/-- A character up to the choice of the digit or of the sign. -/
def blur (c : Char) : Char :=
  if Text.isDecimalDigit c = true then '0' else if c = '-' then '+' else c

/-- A class of characters that holds all digits or none, and both signs or none. -/
def Blind (p : Char → Bool) : Prop :=
  ∀ c, p (blur c) = p c

theorem Blind.of_digits {p : Char → Bool} {b : Bool} (hd : ∀ c, Text.isDecimalDigit c = true → p c = b)
    (hs : p '+' = p '-') : Blind p := by
  intro c
  unfold blur
  split
  · next h => rw [hd '0' rfl, hd c h]
  · split
    · next h => rw [h, hs]
    · rfl

theorem blind_isDecimalDigit : Blind Text.isDecimalDigit :=
  .of_digits (fun _ => id) rfl

theorem blind_isQuote : Blind Entry.isQuote := by
  apply Blind.of_digits (b := false) ?_ rfl
  intro c hc
  rw [← Bool.not_eq_true]
  intro hq
  obtain rfl | rfl : c = '"' ∨ c = '\'' := by simpa [Entry.isQuote] using hq
  · cases hc
  · cases hc

theorem blind_beq {k : Char} (hd : Text.isDecimalDigit k = false) (hp : k ≠ '+') (hm : k ≠ '-') : Blind (· == k) := by
  apply Blind.of_digits (b := false)
  · intro c hc
    simp only [beq_eq_false_iff_ne]
    rintro rfl
    rw [hd] at hc
    cases hc
  · simp [hp.symm, hm.symm]

theorem blur_eq_iff {k : Char} (hk : Blind (· == k)) (c : Char) : blur c = k ↔ c = k := by
  simpa using Bool.eq_iff_iff.1 (hk c)

theorem blind_space : Blind (· == ' ') :=
  blind_beq rfl (by decide) (by decide)

theorem blind_paren : Blind (· == ')') :=
  blind_beq rfl (by decide) (by decide)

theorem blind_colon : Blind (· == ':') :=
  blind_beq rfl (by decide) (by decide)

theorem skipSome?_blur {p : Char → Bool} (hp : Blind p) (s : List Char) :
    Entry.skipSome? p (s.map blur) = (Entry.skipSome? p s).map (List.map blur) := by
  have hcomp : p ∘ blur = p := funext hp
  cases s with
  | nil => rfl
  | cons c s =>
    rw [List.map_cons, Entry.skipSome?, Entry.skipSome?, hp c, List.dropWhile_map, hcomp]
    split <;> rfl

theorem skipChar?_blur {k : Char} (hk : Blind (· == k)) (s : List Char) :
    Entry.skipChar? k (s.map blur) = (Entry.skipChar? k s).map (List.map blur) := by
  cases s with
  | nil => rfl
  | cons c s =>
    simp only [List.map_cons, Entry.skipChar?, blur_eq_iff hk]
    split <;> rfl

theorem dropColon?_blur (s : List Char) :
    Entry.dropColon? (s.map blur) = (Entry.dropColon? s).map (List.map blur) := by
  have hlast : (s.map blur).getLast? = some ':' ↔ s.getLast? = some ':' := by
    simp [blur_eq_iff blind_colon]
  simp only [Entry.dropColon?, hlast, ← List.map_dropLast]
  split <;> rfl

theorem dropOpening_blur (s : List Char) :
    Entry.dropOpening (s.map blur) = (Entry.dropOpening s).map blur := by
  cases s with
  | nil => rfl
  | cons c s =>
    simp only [List.map_cons, Entry.dropOpening, blind_isQuote c]
    split <;> rfl

theorem dropClosing_blur (s : List Char) :
    Entry.dropClosing (s.map blur) = (Entry.dropClosing s).map blur := by
  rw [Entry.dropClosing, Entry.dropClosing, List.getLast?_map]
  cases s.getLast? with
  | none => rfl
  | some c =>
    simp only [Option.map_some, blind_isQuote c, ← List.map_dropLast]
    split <;> rfl

theorem unquoted?_blur (s : List Char) :
    Entry.unquoted? (s.map blur) = (Entry.unquoted? s).map (List.map blur) := by
  have hcomp : Entry.isQuote ∘ blur = Entry.isQuote := funext blind_isQuote
  simp only [Entry.unquoted?, dropOpening_blur, dropClosing_blur, List.isEmpty_map, List.any_map, hcomp]
  split <;> rfl

theorem version?_blur (s : List Char) :
    Entry.version? (s.map blur) = (Entry.version? s).map (List.map blur) := by
  have hcomp : Entry.isQuote ∘ blur = Entry.isQuote := funext blind_isQuote
  have hblank : (s.map blur).take 2 = [' ', ' '] ↔ s.take 2 = [' ', ' '] := by
    simp [← List.map_take, List.map_eq_cons_iff, blur_eq_iff blind_space]
  simp only [Entry.version?, bind, skipSome?_blur blind_space]
  cases Entry.skipSome? (· == ' ') s with
  | none => rfl
  | some rest =>
    simp only [Option.map_some, Option.bind_some, dropColon?_blur]
    cases Entry.dropColon? rest with
    | none => rfl
    | some body =>
      simp only [Option.map_some, Option.bind_some, unquoted?_blur, List.isEmpty_map, List.length_map,
        List.all_map, hcomp, Bool.and_eq_true, beq_iff_eq, hblank]
      cases Entry.unquoted? body with
      | some version => rfl
      | none =>
        simp only [Option.map_none]
        split <;> rfl

theorem lineEnd?_blur (s : List Char) : lineEnd? (s.map blur) = (lineEnd? s).map (List.map blur) := by
  simp only [lineEnd?, bind, skipSome?_blur blind_space]
  cases Entry.skipSome? (· == ' ') s with
  | none => rfl
  | some s =>
    simp only [Option.map_some, Option.bind_some, skipSome?_blur blind_isDecimalDigit]
    cases Entry.skipSome? Text.isDecimalDigit s with
    | none => rfl
    | some s =>
      simp only [Option.map_some, Option.bind_some, skipChar?_blur blind_paren]
      cases Entry.skipChar? ')' s with
      | none => rfl
      | some s => exact version?_blur s

theorem blur_eq_of_fitsShape {mark c : Char} (h : Entry.fitsShape mark c = true) : blur c = blur mark := by
  rw [Entry.fitsShape] at h
  split at h
  · next hm =>
    rw [hm, blur, if_pos h]
    rfl
  · split at h
    · next hm =>
      obtain rfl | rfl : c = '+' ∨ c = '-' := by simpa using h
      · rw [hm]
      · rw [hm]
        rfl
    · rw [beq_iff_eq.1 h]

/-- What all timestamps look like. -/
def stampBlur : List Char :=
  Entry.stampShape.map blur

theorem map_blur_of_shaped {shape s : List Char}
    (h : List.Forall₂ (fun m c => Entry.fitsShape m c = true) shape s) : s.map blur = shape.map blur := by
  induction h with
  | nil => rfl
  | cons hc _ ih => rw [List.map_cons, List.map_cons, ih, blur_eq_of_fitsShape hc]

theorem StampParts.map_blur_text (p : StampParts) : p.text.map blur = stampBlur :=
  map_blur_of_shaped (p.text_fits.imp fun _ _ => Fits.fitsShape)

/-- The end of a line is found whatever timestamp stands in it. -/
theorem lineEnd?_stamp (p q : StampParts) {a b version : List Char}
    (h : lineEnd? (a ++ (p.text ++ b)) = some version) :
    ∃ version', lineEnd? (a ++ (q.text ++ b)) = some version' := by
  have hsame : (a ++ (q.text ++ b)).map blur = (a ++ (p.text ++ b)).map blur := by
    simp only [List.map_append, StampParts.map_blur_text]
  have hread := lineEnd?_blur (a ++ (q.text ++ b))
  rw [hsame, lineEnd?_blur, h] at hread
  cases hq : lineEnd? (a ++ (q.text ++ b)) with
  | none =>
    rw [hq] at hread
    cases hread
  | some version' => exact ⟨version', rfl⟩

theorem stampBlur_apart {n : Nat} (h : n < 26) (hpos : 0 < n) :
    ¬ (stampBlur ++ [' ']).drop n <+: stampBlur := by
  have hall : ∀ n < 26, 0 < n → ¬ (stampBlur ++ [' ']).drop n <+: stampBlur := by decide +kernel
  exact hall n h hpos

end RecipePins.History
