import RecipePins.Calendar
import RecipePins.Decimal.Notation
import RecipePins.Text.Radix
import RecipePins.Text.Split
import RecipePins.Toml.Value

/-!
# Bare values

Truth values, numbers and moments are written without quotation marks. The text of a bare value goes
as far as its characters go and is read as a whole. Digits may be grouped by single underscores.
-/
namespace RecipePins.Toml

def isBareChar (c : Char) : Bool :=
  c.isAlphanum || c == '_' || c == '+' || c == '-' || c == '.' || c == ':'

/-- Digits without their grouping, if every underscore stands between two of them. -/
def ungroup? (isDigit : Char → Bool) (s : List Char) : Option (List Char) :=
  let groups := Text.fields '_' s
  if groups.all fun g => !g.isEmpty && g.all isDigit then some groups.flatten else none

/-- Decimal digits without their grouping; a needless leading zero is refused. -/
def whole? (s : List Char) : Option (List Char) :=
  match ungroup? Char.isDigit s with
  | some ('0' :: _ :: _) => none
  | digits => digits

/-- The least integer is `-integerLimit`, and the greatest is one less than `integerLimit`. -/
def integerLimit : Nat := Nat.pow 2 63

def based? (base : Nat) (s : List Char) : Option Int :=
  match (ungroup? (fun c => (Text.digitIn? base c).isSome) s).bind (Text.inBase? base) with
  | some n => if n < integerLimit then some n else none
  | none => none

def integer? (s : List Char) : Option Int :=
  match s with
  | '0' :: 'x' :: r => based? 16 r
  | '0' :: 'o' :: r => based? 8 r
  | '0' :: 'b' :: r => based? 2 r
  | _ =>
    match (whole? (Decimal.dropSign s)).map Text.digitsValue with
    | some n =>
      if s.head? = some '-' then if n ≤ integerLimit then some (-(n : Int)) else none
      else if n < integerLimit then some n else none
    | none => none

def isExponent (s : List Char) : Bool :=
  (ungroup? Char.isDigit (Decimal.dropSign s)).isSome

def isFraction (s : List Char) : Bool :=
  let isMark (c : Char) : Bool := c == 'e' || c == 'E'
  (ungroup? Char.isDigit (s.takeWhile (!isMark ·))).isSome &&
    match s.dropWhile (!isMark ·) with
    | [] => true
    | _ :: e => isExponent e

def isDecimal (s : List Char) : Bool :=
  let isInner (c : Char) : Bool := c.isDigit || c == '_'
  (whole? (s.takeWhile isInner)).isSome &&
    match s.dropWhile isInner with
    | '.' :: r => isFraction r
    | 'e' :: r | 'E' :: r => isExponent r
    | _ => false

/-- Whether a text is a floating number. A number beyond the range is refused if it is positive and
counts as infinite if it is negative. -/
def isFloat (s : List Char) : Bool :=
  let body := Decimal.dropSign s
  body == "inf".toList || body == "nan".toList ||
    (isDecimal body &&
      (s.head? = some '-' || (Decimal.readDecimal? false (body.filter (· != '_'))).isSome))

def isNumber (n low high : Nat) (s : List Char) : Bool :=
  s.length == n && s.all Char.isDigit && low ≤ Text.digitsValue s && Text.digitsValue s ≤ high

/-- Whether a text is a date of the calendar such as `1979-05-27`. -/
def isDate (s : List Char) : Bool :=
  match Text.fields '-' s with
  | [year, month, day] =>
    isNumber 4 0 9999 year && isNumber 2 1 12 month &&
      isNumber 2 1 (Calendar.daysInMonth (Text.digitsValue year) (Text.digitsValue month)) day
  | _ => false

/-- Whether a text is a time of day such as `07:32:00.5`; the second may be a leap second. -/
def isTime (s : List Char) : Bool :=
  match Text.fields ':' s with
  | [hour, minute, second] =>
    isNumber 2 0 23 hour && isNumber 2 0 59 minute &&
      match Text.fields '.' second with
      | [second] => isNumber 2 0 60 second
      | [second, fraction] => isNumber 2 0 60 second && Text.isDigitRun fraction
      | _ => false
  | _ => false

def isOffset : List Char → Bool
  | ['Z'] | ['z'] => true
  | c :: s =>
    Decimal.isSign c &&
      match Text.fields ':' s with
      | [hour, minute] => isNumber 2 0 23 hour && isNumber 2 0 59 minute
      | _ => false
  | [] => false

def isZonedTime (s : List Char) : Bool :=
  let isMark (c : Char) : Bool := Decimal.isSign c || c == 'Z' || c == 'z'
  let offset := s.dropWhile (!isMark ·)
  isTime (s.takeWhile (!isMark ·)) && (offset.isEmpty || isOffset offset)

/-- Whether a text is a date, a time of day, or both with `T` or a space between them. -/
def isMoment (s : List Char) : Bool :=
  isTime s ||
    (isDate (s.take 10) &&
      match s.drop 10 with
      | [] => true
      | c :: time => (c == 'T' || c == 't' || c == ' ') && isZonedTime time)

def bareValue? (s : List Char) : Option Value :=
  if s = "true".toList then some (.boolean true)
  else if s = "false".toList then some (.boolean false)
  else if isMoment s then some (.moment (String.ofList s))
  else if isFloat s then some (.float (String.ofList s))
  else (integer? s).map .integer

/-- The text of the bare value at the start of a text. A space may part a date from its time. -/
def bareText (s : List Char) : List Char :=
  let first := s.takeWhile isBareChar
  match s.dropWhile isBareChar with
  | ' ' :: r =>
    let time := r.takeWhile isBareChar
    if isDate first && !time.isEmpty then first ++ ' ' :: time else first
  | _ => first

def bare? (s : List Char) : Option (Value × List Char) :=
  let text := bareText s
  (bareValue? text).map fun v => (v, s.drop text.length)

end RecipePins.Toml
