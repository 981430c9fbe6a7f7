import RecipePins.Calendar
import RecipePins.Text.Digits

/-!
# Timestamps of history lines

A timestamp is a civil date and time with the offset of its time zone from UTC, written
`2022-11-08 20:49:32 +0100`. `Timestamp.ofChars?` accepts that form for real dates only. Timestamps
compare by `instant`, whatever their offsets.
-/
namespace RecipePins.History
open Calendar

/-- A civil date and time with its time zone's offset from UTC in minutes. Second 60 is a leap
second. -/
structure Timestamp where
  year : Nat
  month : Nat
  day : Nat
  hour : Nat
  minute : Nat
  second : Nat
  offset : Int
  deriving DecidableEq, Repr

namespace Timestamp

/-- The date exists in the calendar and has a four-digit year, the time is a time of day, perhaps
a leap second, and the offset is less than a day. -/
def Valid (t : Timestamp) : Prop :=
  t.year < 10000 ∧ (1 ≤ t.day ∧ t.day ≤ daysInMonth t.year t.month) ∧
    t.hour < 24 ∧ t.minute < 60 ∧ t.second ≤ 60 ∧ t.offset.natAbs < 1440

instance (t : Timestamp) : Decidable t.Valid :=
  inferInstanceAs (Decidable (_ ∧ _))

/-- Days from the first of January of year 0. -/
def dayNumber (t : Timestamp) : Nat :=
  daysBeforeYear t.year + daysBeforeMonth t.year t.month + (t.day - 1)

/-- Seconds since the start of 1970 in UTC; a leap second counts as the second before it. -/
def unixSeconds (t : Timestamp) : Int :=
  ((t.dayNumber : Int) - (daysBeforeYear 1970 : Int)) * 86400 + (t.hour * 3600 : Int)
    + (t.minute * 60 : Int) + (min t.second 59 : Nat) - t.offset * 60

/-- The instant in half seconds, so that a leap second falls strictly between its neighbours. -/
def instant (t : Timestamp) : Int :=
  2 * t.unixSeconds + (if t.second = 60 then 1 else 0)

def digits? : Nat → List Char → Option (List Char × List Char)
  | 0, s => some ([], s)
  | _ + 1, [] => none
  | n + 1, c :: s =>
    if c.isDigit then (digits? n s).map fun (ds, rest) => (c :: ds, rest) else none

def number? (n : Nat) (s : List Char) : Option (Nat × List Char) :=
  (digits? n s).map fun (ds, rest) => (Text.digitsValue ds, rest)

def mark? (c : Char) : List Char → Option (List Char)
  | d :: s => if d = c then some s else none
  | [] => none

def sign? : List Char → Option (Int × List Char)
  | '+' :: s => some (1, s)
  | '-' :: s => some (-1, s)
  | _ => none

/-- Reads an offset such as `+0130`, which is a sign, hours and at most 59 minutes. -/
def offset? (s : List Char) : Option (Int × List Char) := do
  let (sign, s) ← sign? s
  let (hours, s) ← number? 2 s
  let (minutes, s) ← number? 2 s
  if minutes < 60 then some (sign * (hours * 60 + minutes : Nat), s) else none

def fields? (s : List Char) : Option (Timestamp × List Char) := do
  let (year, s) ← number? 4 s
  let (month, s) ← number? 2 (← mark? '-' s)
  let (day, s) ← number? 2 (← mark? '-' s)
  let (hour, s) ← number? 2 (← mark? ' ' s)
  let (minute, s) ← number? 2 (← mark? ':' s)
  let (second, s) ← number? 2 (← mark? ':' s)
  let (offset, s) ← offset? (← mark? ' ' s)
  some (⟨year, month, day, hour, minute, second, offset⟩, s)

def ofChars? (s : List Char) : Option Timestamp :=
  match fields? s with
  | some (t, []) => if t.Valid then some t else none
  | _ => none

def padded (width n : Nat) : List Char :=
  let ds := Text.decimal n
  List.replicate (width - ds.length) '0' ++ ds

/-- The sign of an offset; an offset of zero is written with a plus. -/
def signMark (t : Timestamp) : Char :=
  if t.offset < 0 then '-' else '+'

/-- A timestamp with given marks around its parts: after the date, and inside the offset. -/
def write (gap beforeOffset inOffset : List Char) (t : Timestamp) : List Char :=
  padded 4 t.year ++ '-' :: padded 2 t.month ++ '-' :: padded 2 t.day ++ gap ++
    padded 2 t.hour ++ ':' :: padded 2 t.minute ++ ':' :: padded 2 t.second ++ beforeOffset ++
    t.signMark :: padded 2 (t.offset.natAbs / 60) ++ inOffset ++ padded 2 (t.offset.natAbs % 60)

/-- The form used in history lines, `2022-11-08 20:49:32 +0100`. -/
def toChars (t : Timestamp) : List Char :=
  t.write [' '] [' '] []

/-- The form of the internet standard, `2022-11-08T20:49:32+01:00`. -/
def internetText (t : Timestamp) : String :=
  String.ofList (t.write ['T'] [] [':'])

end Timestamp

end RecipePins.History
