import RecipePins.Decimal.Binary

/-!
# Shortest decimals

The shortest decimal of a binary number is the one with the fewest digits that rounds back to it,
and among those the nearest. Decimals of `n` digits form a grid; if any point of the grid rounds
back, then so does one of the two neighbours of the number on it, so it is enough to try those for
`n = 1, 2, …, 17`.
-/
namespace RecipePins.Decimal

/-- The reals that round to a positive number, scaled to integers: the two ends, the number itself,
the scale, and whether the ends belong to it. -/
structure Interval where
  low : Nat
  value : Nat
  high : Nat
  scale : Nat
  closed : Bool

/-- The interval of `mantissa · 2 ^ exponent`. Below a power of two the gap is half as wide. -/
def Interval.ofBinary (mantissa : Nat) (exponent : Int) : Interval :=
  let isPower := mantissa = Nat.pow 2 (mantissaBits - 1) && leastExponent < exponent
  let unit := exponent - 2
  let up := if 0 ≤ unit then Nat.pow 2 unit.toNat else 1
  { low := (4 * mantissa - (if isPower then 1 else 2)) * up
    value := 4 * mantissa * up
    high := (4 * mantissa + 2) * up
    scale := if 0 ≤ unit then 1 else Nat.pow 2 (-unit).toNat
    closed := mantissa % 2 == 0 }

/-- The number of places by which the first digit of `value / scale`, which is below one, stands
after the point, tried from `places` on. -/
def placesAfterPoint (value scale : Nat) : Nat → Nat → Nat
  | 0, places => places
  | fuel + 1, places =>
    if scale ≤ value * Nat.pow 10 places then places
    else placesAfterPoint value scale fuel (places + 1)

/-- The number `p` such that the value lies from `10 ^ (p - 1)` up to `10 ^ p`. -/
def Interval.position (i : Interval) : Int :=
  if i.scale ≤ i.value then (Text.decimal (i.value / i.scale)).length
  else 1 - (placesAfterPoint i.value i.scale 400 1 : Int)

/-- A quotient of two numbers for comparing `digits · 10 ^ power` with the ends: the factor of the
digits and the factor of the ends. -/
def Interval.factors (i : Interval) (power : Int) : Nat × Nat :=
  if 0 ≤ power then (Nat.pow 10 power.toNat * i.scale, 1)
  else (i.scale, Nat.pow 10 (-power).toNat)

def Interval.holds (i : Interval) (digits : Nat) (power : Int) : Bool :=
  let (f, g) := i.factors power
  if i.closed then i.low * g ≤ digits * f && digits * f ≤ i.high * g
  else i.low * g < digits * f && digits * f < i.high * g

/-- The better of the two neighbours of the value on the grid of `10 ^ power` that lie in the
interval: the nearer one, or the even one if both are as near. -/
def Interval.neighbour? (i : Interval) (power : Int) : Option Nat :=
  let (f, g) := i.factors power
  let below := i.value * g / f
  match i.holds below power, i.holds (below + 1) power with
  | true, true =>
    let twice := 2 * (i.value * g)
    let middle := (2 * below + 1) * f
    if twice < middle || (twice == middle && below % 2 == 0) then some below else some (below + 1)
  | true, false => some below
  | false, true => some (below + 1)
  | false, false => none

/-- The first neighbour on grids of `n, n + 1, …` digits, with its power of ten. -/
def Interval.search (i : Interval) (position : Int) : Nat → Nat → Option (Nat × Int)
  | 0, _ => none
  | fuel + 1, n =>
    match i.neighbour? (position - n) with
    | some digits => some (digits, position - n)
    | none => i.search position fuel (n + 1)

def dropFinalZeros : Nat → Nat → Int → Nat × Int
  | 0, digits, power => (digits, power)
  | fuel + 1, digits, power =>
    if digits % 10 = 0 then dropFinalZeros fuel (digits / 10) (power + 1) else (digits, power)

def shortest (mantissa : Nat) (exponent : Int) : Nat × Int :=
  let i := Interval.ofBinary mantissa exponent
  match i.search i.position 17 1 with
  | some (digits, power) => dropFinalZeros 20 digits power
  | none => (mantissa, 0)

/-- Where the point of a number stands among its digits, counted from the first digit. Numbers are
written in full while the point is at most 16 places after the first digit and at most 4 zeros
would follow the point; others have an exponent. -/
def placed (digits : List Char) (power : Int) : List Char :=
  let length : Int := digits.length
  let point := length + power
  if 0 ≤ power && point ≤ 16 then
    digits ++ List.replicate power.toNat '0' ++ ['.', '0']
  else if 0 < point && point ≤ 16 then
    digits.take point.toNat ++ '.' :: digits.drop point.toNat
  else if -5 < point && point ≤ 0 then
    '0' :: '.' :: List.replicate (-point).toNat '0' ++ digits
  else
    let mark := if point - 1 < 0 then ['e', '-'] else ['e']
    let exponent := mark ++ Text.decimal (point - 1).natAbs
    match digits with
    | [d] => d :: exponent
    | d :: ds => d :: '.' :: ds ++ exponent
    | [] => exponent

/-- The shortest text of a number that reads back as it. -/
def Binary.text (x : Binary) : String :=
  let sign := if x.negative then ['-'] else []
  let (digits, power) := if x.isZero then (0, 0) else shortest x.mantissa x.exponent
  String.ofList (sign ++ placed (Text.decimal digits) power)

end RecipePins.Decimal
