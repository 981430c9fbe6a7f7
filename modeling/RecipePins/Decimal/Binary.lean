import RecipePins.Text.Digits

/-!
# Binary floating-point numbers

A finite double-precision number is `± mantissa · 2 ^ exponent` with a mantissa below `2 ^ 53` and
an exponent from -1074 to 971; the mantissa has all 53 bits unless the exponent is the least one.
Decimal numbers are rounded to the nearest of these by exact integer arithmetic, ties going to the
even mantissa.
-/
namespace RecipePins.Decimal

/-- A finite number in the canonical form that the module describes. -/
structure Binary where
  negative : Bool
  mantissa : Nat
  exponent : Int
  deriving DecidableEq, Repr

def leastExponent : Int := -1074

def greatestExponent : Int := 971

def mantissaBits : Nat := 53

/-- The integer nearest to a quotient, the even one if two are equally near. -/
def roundQuotient (num den : Nat) : Nat :=
  let q := num / den
  let r := num % den
  if den < 2 * r || (2 * r == den && q % 2 == 1) then q + 1 else q

def scaleDown (num den : Nat) (power : Int) : Nat × Nat :=
  if 0 ≤ power then (num, den * Nat.pow 2 power.toNat) else (num * Nat.pow 2 (-power).toNat, den)

/-- The exponent at which a positive quotient has a mantissa of 53 bits, or the least exponent. -/
def exponentOf (num den : Nat) : Int :=
  let low := max ((Nat.log2 num : Int) - Nat.log2 den - mantissaBits) leastExponent
  let (n, d) := scaleDown num den low
  if d * Nat.pow 2 mantissaBits ≤ n then low + 1 else low

def nearest? (num den : Nat) : Option (Nat × Int) :=
  if num = 0 then some (0, leastExponent)
  else
    let e := exponentOf num den
    let (n, d) := scaleDown num den e
    let m := roundQuotient n d
    let (m, e) :=
      if m = Nat.pow 2 mantissaBits then (Nat.pow 2 (mantissaBits - 1), e + 1) else (m, e)
    if greatestExponent < e then none else some (m, e)

/-- The finite number nearest to `± digits · 10 ^ power`, if there is one. Far beyond the range of
exponents the answer is clear from the number of digits. -/
def Binary.ofDecimal? (negative : Bool) (digits : List Char) (power : Int) : Option Binary :=
  let value := Text.digitsValue digits
  let size : Int := (Text.dropZeros digits).length + power
  let rounded :=
    if value = 0 || size < -400 then some (0, leastExponent)
    else if 400 < size then none
    else if 0 ≤ power then nearest? (value * Nat.pow 10 power.toNat) 1
    else nearest? value (Nat.pow 10 (-power).toNat)
  rounded.map fun (m, e) => ⟨negative, m, e⟩

def Binary.isZero (x : Binary) : Bool :=
  x.mantissa == 0

/-- Numbers are equal if they have the same value: the sign of zero does not count. -/
def Binary.equal (x y : Binary) : Bool :=
  x.mantissa == y.mantissa && x.exponent == y.exponent &&
    (x.negative == y.negative || x.isZero)

end RecipePins.Decimal
