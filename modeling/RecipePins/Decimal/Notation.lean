import RecipePins.Decimal.Binary

/-!
# Decimal notation

Signed decimal numbers with a point and an exponent, read as the nearest binary number.
-/
namespace RecipePins.Decimal

def isSign (c : Char) : Bool :=
  c == '+' || c == '-'

def dropSign : List Char → List Char
  | c :: s => if isSign c then s else c :: s
  | [] => []

/-- The exponent that ends a number: nothing, or `e`, perhaps a sign, and digits. -/
def exponent? : List Char → Option Int
  | [] => some 0
  | c :: s =>
    if c == 'e' || c == 'E' then
      let digits := dropSign s
      let value : Int := Text.digitsValue digits
      if Text.isDigitRun digits then some (if s.head? = some '-' then -value else value) else none
    else none

/-- An unsigned decimal number with a point, an exponent, both or neither, which is given a sign;
numbers too large for a finite one are refused. -/
def readDecimal? (negative : Bool) (s : List Char) : Option Binary :=
  let whole := s.takeWhile Char.isDigit
  let rest := s.dropWhile Char.isDigit
  let (fraction, rest) := match rest with
    | '.' :: r => (r.takeWhile Char.isDigit, r.dropWhile Char.isDigit)
    | r => ([], r)
  if whole.isEmpty && fraction.isEmpty then none
  else (exponent? rest).bind fun e =>
    Binary.ofDecimal? negative (whole ++ fraction) (e - fraction.length)

end RecipePins.Decimal
