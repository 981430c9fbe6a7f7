import Mathlib.Data.List.Forall2
import RecipePins.History.Entry
import RecipePins.Proofs.Text.Search

/-!
# The text of a timestamp

A text that reads as a timestamp is a date, a time and a zone offset with one space between them. It
has the shape that an annotated line is searched for, and no part of it but the date begins that shape.
-/
namespace RecipePins.History

def dateShape : List Char :=
  "0000-00-00".toList

def clockShape : List Char :=
  "00:00:00".toList

def zoneShape : List Char :=
  "+0000".toList

/-- Whether a character fits a character of the shape, with digits of ASCII only. -/
def Fits (mark c : Char) : Prop :=
  if mark = '0' then c.isDigit = true else if mark = '+' then c = '+' ∨ c = '-' else c = mark

/-- A text as a date, a time of day and an offset from UTC. -/
structure StampParts where
  date : List Char
  clock : List Char
  zone : List Char
  date_fits : List.Forall₂ Fits dateShape date
  clock_fits : List.Forall₂ Fits clockShape clock
  zone_fits : List.Forall₂ Fits zoneShape zone

namespace StampParts

def text (p : StampParts) : List Char :=
  p.date ++ ' ' :: (p.clock ++ ' ' :: p.zone)

end StampParts

theorem digits?_eq_some {n : Nat} {s ds rest : List Char}
    (h : Timestamp.digits? n s = some (ds, rest)) :
    s = ds ++ rest ∧ List.Forall₂ Fits (List.replicate n '0') ds := by
  induction n generalizing s ds with
  | zero =>
    obtain ⟨rfl, rfl⟩ : [] = ds ∧ s = rest := by simpa [Timestamp.digits?] using h
    exact ⟨rfl, .nil⟩
  | succ n ih =>
    cases s with
    | nil => cases h
    | cons c s =>
      rw [Timestamp.digits?] at h
      split at h
      · next hc =>
        obtain ⟨⟨ds', rest'⟩, hd, he⟩ := Option.map_eq_some_iff.1 h
        obtain ⟨rfl, rfl⟩ := Prod.mk.inj he
        obtain ⟨rfl, hf⟩ := ih hd
        exact ⟨rfl, .cons hc hf⟩
      · cases h

theorem number?_eq_some {n value : Nat} {s rest : List Char}
    (h : Timestamp.number? n s = some (value, rest)) :
    ∃ ds, s = ds ++ rest ∧ List.Forall₂ Fits (List.replicate n '0') ds := by
  obtain ⟨⟨ds, rest'⟩, hd, he⟩ := Option.map_eq_some_iff.1 h
  obtain ⟨-, rfl⟩ := Prod.mk.inj he
  exact ⟨ds, digits?_eq_some hd⟩

theorem mark?_eq_some {c : Char} {s rest : List Char} (h : Timestamp.mark? c s = some rest) :
    s = c :: rest := by
  cases s with
  | nil => cases h
  | cons d s =>
    rw [Timestamp.mark?] at h
    split at h
    · next hd => rw [hd, Option.some.inj h]
    · cases h

theorem sign?_eq_some {value : Int} {s rest : List Char}
    (h : Timestamp.sign? s = some (value, rest)) : ∃ c, Fits '+' c ∧ s = c :: rest := by
  unfold Timestamp.sign? at h
  split at h
  · obtain ⟨-, rfl⟩ := Prod.mk.inj (Option.some.inj h)
    exact ⟨'+', .inl rfl, rfl⟩
  · obtain ⟨-, rfl⟩ := Prod.mk.inj (Option.some.inj h)
    exact ⟨'-', .inr rfl, rfl⟩
  · cases h

theorem offset?_eq_some {value : Int} {s rest : List Char}
    (h : Timestamp.offset? s = some (value, rest)) :
    ∃ zone, s = zone ++ rest ∧ List.Forall₂ Fits zoneShape zone := by
  simp only [Timestamp.offset?, bind, Option.bind_eq_some_iff] at h
  obtain ⟨⟨sign, s₁⟩, hs, ⟨hours, s₂⟩, hh, ⟨minutes, s₃⟩, hm, h⟩ := h
  dsimp only at hh hm h
  split at h
  · obtain ⟨-, rfl⟩ := Prod.mk.inj (Option.some.inj h)
    obtain ⟨c, hc, rfl⟩ := sign?_eq_some hs
    obtain ⟨hd, rfl, hdf⟩ := number?_eq_some hh
    obtain ⟨md, rfl, mdf⟩ := number?_eq_some hm
    refine ⟨c :: (hd ++ md), by simp, ?_⟩
    exact .cons hc (List.rel_append hdf mdf)
  · cases h

/-- What reads as a timestamp has the three parts. -/
theorem exists_parts {stamp : List Char} {t : Timestamp} (h : Timestamp.ofChars? stamp = some t) :
    ∃ p : StampParts, p.text = stamp := by
  rw [Timestamp.ofChars?] at h
  split at h
  · next hf =>
    simp only [Timestamp.fields?, bind, Option.bind_eq_some_iff] at hf
    obtain ⟨⟨_, s₁⟩, hyear, _, mark₁, ⟨_, s₂⟩, hmonth, _, mark₂, ⟨_, s₃⟩, hday, _, mark₃, ⟨_, s₄⟩, hhour, _,
      mark₄, ⟨_, s₅⟩, hminute, _, mark₅, ⟨_, s₆⟩, hsecond, _, mark₆, ⟨_, s₇⟩, hzone, he⟩ := hf
    obtain rfl : s₇ = [] := (Prod.mk.inj (Option.some.inj he)).2
    obtain ⟨year, rfl, fyear⟩ := number?_eq_some hyear
    obtain rfl := mark?_eq_some mark₁
    obtain ⟨month, rfl, fmonth⟩ := number?_eq_some hmonth
    obtain rfl := mark?_eq_some mark₂
    obtain ⟨day, rfl, fday⟩ := number?_eq_some hday
    obtain rfl := mark?_eq_some mark₃
    obtain ⟨hour, rfl, fhour⟩ := number?_eq_some hhour
    obtain rfl := mark?_eq_some mark₄
    obtain ⟨minute, rfl, fminute⟩ := number?_eq_some hminute
    obtain rfl := mark?_eq_some mark₅
    obtain ⟨second, rfl, fsecond⟩ := number?_eq_some hsecond
    obtain rfl := mark?_eq_some mark₆
    obtain ⟨zone, rfl, fzone⟩ := offset?_eq_some hzone
    refine ⟨⟨year ++ '-' :: (month ++ '-' :: day), hour ++ ':' :: (minute ++ ':' :: second), zone,
      ?_, ?_, fzone⟩, by simp [StampParts.text]⟩
    · exact List.rel_append fyear (.cons rfl (List.rel_append fmonth (.cons rfl fday)))
    · exact List.rel_append fhour (.cons rfl (List.rel_append fminute (.cons rfl fsecond)))
  · cases h

theorem isDecimalDigit_of_isDigit {c : Char} (h : c.isDigit = true) : Text.isDecimalDigit c = true := by
  have hlt : c.toNat ≤ 57 := (Char.isDigit_iff_toNat.1 h).2
  rw [Text.isDecimalDigit, if_pos (by omega), h]

theorem Fits.fitsShape {mark c : Char} (h : Fits mark c) : Entry.fitsShape mark c = true := by
  unfold Fits at h
  unfold Entry.fitsShape
  split at h
  · next hm => rw [if_pos hm, isDecimalDigit_of_isDigit h]
  · next hm =>
    rw [if_neg hm]
    split at h
    · next hp => simpa [hp] using h
    · next hp => simpa [hp] using h

theorem shaped?_append {shape s rest : List Char}
    (h : List.Forall₂ (fun m c => Entry.fitsShape m c = true) shape s) :
    Entry.shaped? shape (s ++ rest) = some (s, rest) := by
  induction h with
  | nil => rfl
  | cons hc _ ih =>
    rw [List.cons_append, Entry.shaped?, if_pos hc, ih]
    rfl

theorem mem_of_fits {shape s : List Char} (h : List.Forall₂ Fits shape s) {c : Char} (hc : c ∈ s) :
    c.isDigit = true ∨ c = '+' ∨ c = '-' ∨ c ∈ shape := by
  induction h with
  | nil => cases hc
  | @cons m d shape s hd _ ih =>
    rcases List.mem_cons.1 hc with rfl | hc
    · unfold Fits at hd
      split at hd
      · exact .inl hd
      · split at hd
        · exact .inr (hd.imp id .inl)
        · exact .inr (.inr (.inr (hd ▸ List.mem_cons_self)))
    · exact (ih hc).imp id (.imp id (.imp id (List.mem_cons_of_mem m)))

/-- What the shape is found in begins with it. -/
theorem shaped?_eq_some {shape s stamp rest : List Char}
    (h : Entry.shaped? shape s = some (stamp, rest)) :
    s = stamp ++ rest ∧ List.Forall₂ (fun m c => Entry.fitsShape m c = true) shape stamp := by
  induction shape generalizing s stamp with
  | nil =>
    obtain ⟨rfl, rfl⟩ : [] = stamp ∧ s = rest := by simpa [Entry.shaped?] using h
    exact ⟨rfl, .nil⟩
  | cons m shape ih =>
    cases s with
    | nil => cases h
    | cons c s =>
      rw [Entry.shaped?] at h
      split at h
      · next hc =>
        obtain ⟨⟨stamp', rest'⟩, hs, he⟩ := Option.map_eq_some_iff.1 h
        obtain ⟨rfl, rfl⟩ := Prod.mk.inj he
        obtain ⟨rfl, hf⟩ := ih hs
        exact ⟨rfl, .cons hc hf⟩
      · cases h

/-- Where the shape is found stand four digits and a hyphen, and a space later on. -/
theorem shaped?_stampShape_eq_some {s : List Char} {x : List Char × List Char}
    (h : Entry.shaped? Entry.stampShape s = some x) :
    ∃ year rest, s = year ++ '-' :: rest ∧ year.length = 4 ∧
      (∀ c ∈ year, Text.isDecimalDigit c = true) ∧ ' ' ∈ rest := by
  have space {shape s : List Char} (hf : List.Forall₂ (fun m c => Entry.fitsShape m c = true) shape s)
      (hm : ' ' ∈ shape) : ' ' ∈ s := by
    induction hf with
    | nil => cases hm
    | @cons m c _ _ hc _ ih =>
      rcases List.mem_cons.1 hm with rfl | hm
      · obtain rfl : c = ' ' := by simpa [Entry.fitsShape] using hc
        exact List.mem_cons_self
      · exact List.mem_cons_of_mem _ (ih hm)
  obtain ⟨stamp, rest⟩ := x
  obtain ⟨rfl, hf⟩ := shaped?_eq_some h
  have hshape : Entry.stampShape = '0' :: '0' :: '0' :: '0' :: '-' :: "00-00 00:00:00 +0000".toList := rfl
  rw [hshape] at hf
  simp only [List.forall₂_cons_left_iff] at hf
  obtain ⟨a, _, ha, ⟨b, _, hb, ⟨c, _, hc, ⟨d, _, hd, ⟨e, tail, he, hf, rfl⟩, rfl⟩, rfl⟩, rfl⟩, rfl⟩ := hf
  obtain rfl : e = '-' := by simpa [Entry.fitsShape] using he
  refine ⟨[a, b, c, d], tail ++ rest, rfl, rfl, ?_, List.mem_append_left _ (space hf (by decide))⟩
  simpa using ⟨ha, hb, hc, hd⟩

theorem shaped?_stampShape_of_mem_take {s : List Char} {c : Char} (hm : c ∈ s.take 4)
    (hc : Text.isDecimalDigit c = false) : Entry.shaped? Entry.stampShape s = none := by
  rw [Option.eq_none_iff_forall_ne_some]
  intro x hx
  obtain ⟨year, rest, rfl, hl, hd, -⟩ := shaped?_stampShape_eq_some hx
  rw [← hl, List.take_left] at hm
  rw [hd c hm] at hc
  cases hc

theorem shaped?_stampShape_of_no_space {s : List Char} (hs : ' ' ∉ s) :
    Entry.shaped? Entry.stampShape s = none := by
  rw [Option.eq_none_iff_forall_ne_some]
  intro x hx
  obtain ⟨year, rest, rfl, -, -, hm⟩ := shaped?_stampShape_eq_some hx
  exact hs (List.mem_append_right _ (List.mem_cons_of_mem _ hm))

/-- A number that a parenthesis closes is no year. -/
theorem shaped?_stampShape_number {number rest : List Char}
    (hn : ∀ c ∈ number, Text.isDecimalDigit c = true) :
    Entry.shaped? Entry.stampShape (number ++ ')' :: rest) = none := by
  rw [Option.eq_none_iff_forall_ne_some]
  intro x hx
  obtain ⟨year, tail, he, -, hd, -⟩ := shaped?_stampShape_eq_some hx
  rcases List.append_eq_append_iff.1 he with ⟨z, rfl, hz⟩ | ⟨z, rfl, hz⟩
  · cases z with
    | nil => cases hz
    | cons d z =>
      obtain ⟨rfl, -⟩ := List.cons.inj hz
      exact absurd (hd ')' (by simp)) (by decide)
  · cases z with
    | nil => cases hz
    | cons d z =>
      obtain ⟨rfl, -⟩ := List.cons.inj hz
      exact absurd (hn '-' (by simp)) (by decide)

namespace StampParts

variable (p : StampParts)

theorem text_fits : List.Forall₂ Fits Entry.stampShape p.text :=
  List.rel_append p.date_fits (.cons rfl (List.rel_append p.clock_fits (.cons rfl p.zone_fits)))

/-- A stamp has digits, signs and separators only. -/
theorem mem_text {c : Char} (hc : c ∈ p.text) : c.isDigit = true ∨ c ∈ " +-:".toList := by
  have hshape : Entry.stampShape ⊆ '0' :: " +-:".toList := by decide
  rcases mem_of_fits p.text_fits hc with hd | rfl | rfl | hm
  · exact .inl hd
  · decide
  · decide
  · rcases List.mem_cons.1 (hshape hm) with rfl | hm
    · exact .inl rfl
    · exact .inr hm

/-- A stamp is found where it stands. -/
theorem shaped?_text (rest : List Char) :
    Entry.shaped? Entry.stampShape (p.text ++ rest) = some (p.text, rest) :=
  shaped?_append (p.text_fits.imp fun _ _ => Fits.fitsShape)

theorem shaped?_clock (rest : List Char) :
    Entry.shaped? Entry.stampShape (p.clock ++ rest) = none := by
  have hf := p.clock_fits
  rw [show clockShape = '0' :: '0' :: ':' :: "00:00".toList from rfl] at hf
  simp only [List.forall₂_cons_left_iff] at hf
  obtain ⟨a, _, -, ⟨b, _, -, ⟨c, clock, hc, -, rfl⟩, rfl⟩, he⟩ := hf
  obtain rfl : c = ':' := hc
  rw [he]
  exact shaped?_stampShape_of_mem_take (c := ':') (by simp) (by decide)

theorem shaped?_zone (rest : List Char) :
    Entry.shaped? Entry.stampShape (p.zone ++ rest) = none := by
  have hf := p.zone_fits
  rw [show zoneShape = '+' :: "0000".toList from rfl, List.forall₂_cons_left_iff] at hf
  obtain ⟨c, zone, hc, -, he⟩ := hf
  rw [he]
  refine shaped?_stampShape_of_mem_take (c := c) (by simp) ?_
  obtain rfl | rfl : c = '+' ∨ c = '-' := hc <;> decide

theorem isBlank_of_mem_fits {shape s : List Char} (h : List.Forall₂ Fits shape s)
    (hs : shape.all (!Text.isBlank ·) = true) : ∀ c ∈ s, Text.isBlank c = false := by
  intro c hc
  rcases mem_of_fits h hc with hd | rfl | rfl | hm
  · exact Text.isBlank_of_isDigit hd
  · rfl
  · rfl
  · simpa using List.all_eq_true.1 hs c hm

theorem isBlank_of_mem_date : ∀ c ∈ p.date, Text.isBlank c = false :=
  isBlank_of_mem_fits p.date_fits (by decide)

theorem isBlank_of_mem_clock : ∀ c ∈ p.clock, Text.isBlank c = false :=
  isBlank_of_mem_fits p.clock_fits (by decide)

theorem isBlank_of_mem_zone : ∀ c ∈ p.zone, Text.isBlank c = false :=
  isBlank_of_mem_fits p.zone_fits (by decide)

theorem ne_nil_of_fits {shape s : List Char} (h : List.Forall₂ Fits shape s) (hs : shape ≠ []) :
    s ≠ [] := by
  rintro rfl
  cases h
  exact hs rfl

theorem date_ne : p.date ≠ [] :=
  ne_nil_of_fits p.date_fits (by decide)

theorem clock_ne : p.clock ≠ [] :=
  ne_nil_of_fits p.clock_fits (by decide)

theorem zone_ne : p.zone ≠ [] :=
  ne_nil_of_fits p.zone_fits (by decide)

theorem not_mem_text {c : Char} (hd : c.isDigit = false)
    (hc : c ∉ " +-:".toList) : c ∉ p.text := fun hm =>
  (p.mem_text hm).elim (fun h => by simp [h] at hd) hc

theorem text_ne : p.text ≠ [] := by
  simp [text]

theorem newline_not_mem_text : '\n' ∉ p.text :=
  p.not_mem_text rfl (by decide)

theorem space_not_mem_date : ' ' ∉ p.date := fun hm => by
  cases p.isBlank_of_mem_date ' ' hm

theorem hyphen_mem_date : '-' ∈ p.date := by
  have hf := p.date_fits
  rw [show dateShape = '0' :: '0' :: '0' :: '0' :: '-' :: "00-00".toList from rfl] at hf
  simp only [List.forall₂_cons_left_iff] at hf
  obtain ⟨_, _, -, ⟨_, _, -, ⟨_, _, -, ⟨_, _, -, ⟨c, date, hc, -, rfl⟩, rfl⟩, rfl⟩, rfl⟩, he⟩ := hf
  obtain rfl : c = '-' := hc
  simp [he]

end StampParts

end RecipePins.History
