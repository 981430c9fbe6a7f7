import RecipePins.Proofs.History.Filter
import RecipePins.Proofs.Text.Digits

/-!
# Timestamps there and back

The texts that read as a timestamp are the ways in which the timestamp may be written: its numbers with
zeros up to their widths, and an offset of zero with either sign. A line that is put together around one of
them reads as the version and the timestamp that were put in, whoever its author is.
-/
namespace RecipePins.History
namespace Timestamp

def Signs (offset : Int) (sign : Char) : Prop :=
  sign = '+' ∧ 0 ≤ offset ∨ sign = '-' ∧ offset ≤ 0

/-- An offset as it is written, in hours and minutes. -/
def writtenOffset (offset : Int) (sign : Char) : List Char :=
  sign :: (padded 2 (offset.natAbs / 60) ++ padded 2 (offset.natAbs % 60))

def written (t : Timestamp) (sign : Char) : List Char :=
  padded 4 t.year ++ '-' :: (padded 2 t.month ++ '-' :: (padded 2 t.day ++ ' ' ::
    (padded 2 t.hour ++ ':' :: (padded 2 t.minute ++ ':' :: (padded 2 t.second ++ ' ' ::
      writtenOffset t.offset sign)))))

theorem length_padded {width n : Nat} (hw : 0 < width) (hn : n < Nat.pow 10 width) :
    (padded width n).length = width := by
  have hle : (Text.decimal n).length ≤ width := (Nat.length_toDigits_le_iff (by omega) hw).2 hn
  simp [padded, hle]

theorem isDigit_of_mem_padded {width n : Nat} {c : Char} (hc : c ∈ padded width n) :
    c.isDigit = true := by
  rw [padded] at hc
  rcases List.mem_append.1 hc with hc | hc
  · rw [List.eq_of_mem_replicate hc]
    rfl
  · exact Nat.isDigit_of_mem_toDigits (by omega) (by omega) hc

theorem digitsValue_padded (width n : Nat) : Text.digitsValue (padded width n) = n := by
  rw [padded, Text.digitsValue_replicate_zero_append, Text.digitsValue_decimal]

theorem padded_digitsValue {ds : List Char} (hne : ds ≠ []) (hd : ∀ d ∈ ds, d.isDigit = true) :
    padded ds.length (Text.digitsValue ds) = ds := by
  apply Text.eq_of_digitsValue_eq
  · exact length_padded (List.length_pos_iff.2 hne) (Text.digitsValue_lt hd)
  · exact fun c => isDigit_of_mem_padded
  · exact hd
  · exact digitsValue_padded _ _

theorem isDigit_of_mem_fits {n : Nat} {ds : List Char} (h : List.Forall₂ Fits (List.replicate n '0') ds) :
    ∀ d ∈ ds, d.isDigit = true := by
  induction n generalizing ds with
  | zero =>
    cases h
    simp
  | succ n ih =>
    rw [List.replicate_succ] at h
    cases h with
    | cons hd hds => exact List.forall_mem_cons.2 ⟨hd, ih hds⟩

theorem digits?_append {ds : List Char} (hd : ∀ d ∈ ds, d.isDigit = true) (rest : List Char) :
    digits? ds.length (ds ++ rest) = some (ds, rest) := by
  induction ds with
  | nil => rfl
  | cons d ds ih =>
    rw [List.length_cons, List.cons_append, digits?, if_pos (hd d List.mem_cons_self),
      ih fun c hc => hd c (List.mem_cons_of_mem d hc)]
    rfl

theorem digits?_eq_some_iff {n : Nat} {s ds rest : List Char} :
    digits? n s = some (ds, rest) ↔
      s = ds ++ rest ∧ ds.length = n ∧ ∀ d ∈ ds, d.isDigit = true := by
  constructor
  · intro h
    obtain ⟨rfl, hf⟩ := digits?_eq_some h
    exact ⟨rfl, by simpa using hf.length_eq.symm, isDigit_of_mem_fits hf⟩
  · rintro ⟨rfl, rfl, hd⟩
    exact digits?_append hd rest

theorem number?_eq_some_iff {n v : Nat} {s rest : List Char} (hn : 0 < n) :
    number? n s = some (v, rest) ↔ v < Nat.pow 10 n ∧ s = padded n v ++ rest := by
  simp only [number?, Option.map_eq_some_iff, Prod.mk.injEq, Prod.exists, digits?_eq_some_iff]
  constructor
  · rintro ⟨ds, _, ⟨rfl, rfl, hd⟩, rfl, rfl⟩
    exact ⟨Text.digitsValue_lt hd, by rw [padded_digitsValue (List.length_pos_iff.1 hn) hd]⟩
  · rintro ⟨hv, rfl⟩
    exact ⟨padded n v, rest, ⟨rfl, length_padded hn hv, fun d => isDigit_of_mem_padded⟩,
      digitsValue_padded n v, rfl⟩

theorem mark?_eq_some_iff {c : Char} {s rest : List Char} : mark? c s = some rest ↔ s = c :: rest := by
  constructor
  · exact mark?_eq_some
  · rintro rfl
    rw [mark?, if_pos rfl]

theorem sign?_eq_some_iff {v : Int} {s rest : List Char} :
    sign? s = some (v, rest) ↔ s = '+' :: rest ∧ v = 1 ∨ s = '-' :: rest ∧ v = -1 := by
  unfold sign?
  split <;> simp_all [eq_comm, and_comm]

theorem offset?_eq_some_iff {offset : Int} {s rest : List Char} :
    offset? s = some (offset, rest) ↔
      offset.natAbs < 6000 ∧ ∃ sign, Signs offset sign ∧ s = writtenOffset offset sign ++ rest := by
  simp only [offset?, bind, Option.bind_eq_some_iff, Prod.exists, sign?_eq_some_iff,
    number?_eq_some_iff (show 0 < 2 by omega), show Nat.pow 10 2 = 100 from rfl,
    Option.ite_none_right_eq_some, Option.some.injEq, Prod.mk.injEq]
  constructor
  · rintro ⟨v, _, hs, hours, _, ⟨hh, rfl⟩, minutes, _, ⟨-, rfl⟩, hm, rfl, rfl⟩
    have habs : (v * ((hours * 60 + minutes : Nat) : Int)).natAbs = hours * 60 + minutes := by
      rcases hs with ⟨-, rfl⟩ | ⟨-, rfl⟩ <;> omega
    have hdiv : (hours * 60 + minutes) / 60 = hours := by omega
    have hmod : (hours * 60 + minutes) % 60 = minutes := by omega
    refine ⟨by omega, ?_⟩
    rcases hs with ⟨rfl, rfl⟩ | ⟨rfl, rfl⟩
    · exact ⟨'+', .inl ⟨rfl, by omega⟩, by rw [writtenOffset, habs, hdiv, hmod]; simp⟩
    · exact ⟨'-', .inr ⟨rfl, by omega⟩, by rw [writtenOffset, habs, hdiv, hmod]; simp⟩
  · rintro ⟨hlt, sign, hsign, rfl⟩
    refine ⟨if sign = '+' then 1 else -1, padded 2 (offset.natAbs / 60) ++ (padded 2 (offset.natAbs % 60) ++ rest),
      ?_, offset.natAbs / 60, _, ⟨by omega, rfl⟩, offset.natAbs % 60, rest, ⟨by omega, rfl⟩, by omega, ?_, rfl⟩
    · rcases hsign with ⟨rfl, -⟩ | ⟨rfl, -⟩ <;> simp [writtenOffset]
    · have hsum : offset.natAbs / 60 * 60 + offset.natAbs % 60 = offset.natAbs := by omega
      rw [hsum]
      rcases hsign with ⟨rfl, h⟩ | ⟨rfl, h⟩
      · rw [if_pos rfl]
        omega
      · rw [if_neg (by decide)]
        omega

theorem fields?_eq_some_iff {t : Timestamp} {s rest : List Char} :
    fields? s = some (t, rest) ↔ (t.year < 10000 ∧ t.month < 100 ∧ t.day < 100 ∧ t.hour < 100 ∧
      t.minute < 100 ∧ t.second < 100 ∧ t.offset.natAbs < 6000) ∧
      ∃ sign, Signs t.offset sign ∧ s = t.written sign ++ rest := by
  obtain ⟨year, month, day, hour, minute, second, offset⟩ := t
  simp only [fields?, bind, Option.bind_eq_some_iff, Prod.exists, mark?_eq_some_iff, offset?_eq_some_iff,
    number?_eq_some_iff (show 0 < 2 by omega), number?_eq_some_iff (show 0 < 4 by omega),
    Option.some.injEq, Prod.mk.injEq, Timestamp.mk.injEq]
  constructor
  · rintro ⟨_, _, ⟨hyear, rfl⟩, _, rfl, _, _, ⟨hmonth, rfl⟩, _, rfl, _, _, ⟨hday, rfl⟩, _, rfl,
      _, _, ⟨hhour, rfl⟩, _, rfl, _, _, ⟨hminute, rfl⟩, _, rfl, _, _, ⟨hsecond, rfl⟩, _, rfl,
      _, _, ⟨hoffset, sign, hsign, rfl⟩, ⟨rfl, rfl, rfl, rfl, rfl, rfl, rfl⟩, rfl⟩
    exact ⟨⟨hyear, hmonth, hday, hhour, hminute, hsecond, hoffset⟩, sign, hsign, by simp [written]⟩
  · rintro ⟨⟨hyear, hmonth, hday, hhour, hminute, hsecond, hoffset⟩, sign, hsign, rfl⟩
    simp only [written, List.append_assoc, List.cons_append]
    exact ⟨year, _, ⟨hyear, rfl⟩, _, rfl, month, _, ⟨hmonth, rfl⟩, _, rfl, day, _, ⟨hday, rfl⟩, _, rfl,
      hour, _, ⟨hhour, rfl⟩, _, rfl, minute, _, ⟨hminute, rfl⟩, _, rfl, second, _, ⟨hsecond, rfl⟩, _, rfl,
      offset, rest, ⟨hoffset, sign, hsign, rfl⟩, ⟨rfl, rfl, rfl, rfl, rfl, rfl, rfl⟩, rfl⟩

theorem month_lt_of_valid {t : Timestamp} (ht : t.Valid) : t.month < 100 := by
  obtain ⟨-, ⟨hday, hdays⟩, -⟩ := ht
  by_contra hm
  have hnone : Calendar.daysInMonth t.year t.month = 0 := by
    unfold Calendar.daysInMonth
    split <;> omega
  omega

theorem day_lt_of_valid {t : Timestamp} (ht : t.Valid) : t.day < 100 := by
  obtain ⟨-, ⟨-, hdays⟩, -⟩ := ht
  have hle : Calendar.daysInMonth t.year t.month ≤ 31 := by
    unfold Calendar.daysInMonth
    split
    · split <;> omega
    all_goals omega
  omega

/-- A text reads as a timestamp if it is one of the ways to write it. -/
theorem ofChars?_eq_some_iff {t : Timestamp} {s : List Char} :
    ofChars? s = some t ↔ t.Valid ∧ ∃ sign, Signs t.offset sign ∧ s = t.written sign := by
  have hfields : ofChars? s = some t ↔ fields? s = some (t, []) ∧ t.Valid := by
    rw [ofChars?]
    constructor
    · intro h
      split at h
      · next t' hf =>
        split at h
        · next hv =>
          obtain rfl := Option.some.inj h
          exact ⟨hf, hv⟩
        · cases h
      · cases h
    · rintro ⟨hf, hv⟩
      simp [hf, hv]
  rw [hfields, fields?_eq_some_iff]
  simp only [List.append_nil]
  constructor
  · rintro ⟨⟨-, hs⟩, ht⟩
    exact ⟨ht, hs⟩
  · rintro ⟨ht, hs⟩
    have hmonth := month_lt_of_valid ht
    have hday := day_lt_of_valid ht
    obtain ⟨hyear, -, hhour, hminute, hsecond, hoffset⟩ := id ht
    exact ⟨⟨⟨hyear, hmonth, hday, by omega, by omega, by omega, by omega⟩, hs⟩, ht⟩

theorem ofChars?_written {t : Timestamp} (ht : t.Valid) {sign : Char} (hs : Signs t.offset sign) :
    ofChars? (t.written sign) = some t :=
  ofChars?_eq_some_iff.2 ⟨ht, sign, hs, rfl⟩

end Timestamp

/-- The same columns with another timestamp. -/
def LineHead.dated (h : LineHead) {stamp : List Char} {t : Timestamp}
    (hs : Timestamp.ofChars? stamp = some t) : LineHead :=
  { h with stamp := stamp, timestamp := t, stamp_reads := hs }

/-- What is written into a line is read from it: whatever the columns are, the line of a version gives that
version at the timestamp that stands there. -/
theorem annotated_line_read_back (h : LineHead) (e : VersionLine) {t : Timestamp} (ht : t.Valid)
    {sign : Char} (hs : Timestamp.Signs t.offset sign) :
    Entry.ofLine ((h.dated (Timestamp.ofChars?_written ht hs)).text ++ e.text) =
      .ok ⟨String.ofList e.version, t⟩ :=
  (h.dated (Timestamp.ofChars?_written ht hs)).ofLine_text e

/-- An author who imitates the rest of a line is passed over. -/
theorem imitating_author_passed_over :
    Entry.ofLine
      "815109b9a45 ((\"' 2020-01-01 00:00:00 +0000 1) 'x':  2022-11-08 20:49:32 -0000 26)   \"1.3.5\":".toList =
      .ok ⟨"1.3.5", ⟨2022, 11, 8, 20, 49, 32, 0⟩⟩ :=
  annotated_line_read_back
    (.byAuthor "(\"' 2020-01-01 00:00:00 +0000 1) 'x':".toList (by decide) (by decide))
    .quoted (t := ⟨2022, 11, 8, 20, 49, 32, 0⟩) (by decide) (.inr ⟨rfl, by decide⟩)

end RecipePins.History
