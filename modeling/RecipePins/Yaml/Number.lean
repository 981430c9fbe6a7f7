import RecipePins.Text.Radix
import RecipePins.Decimal.Shortest
import RecipePins.Decimal.Notation

/-!
# Numbers of plain scalars

A plain scalar reads as an integer if it is a signed decimal number without needless leading zeros,
or a signed number in base 16, 8 or 2 after `0x`, `0o` or `0b`. Otherwise it may read as a floating
number. Integers that need more than 64 bits but fit in 128 are refused; still larger decimal ones
read as floating numbers.
-/
namespace RecipePins.Yaml
open Text Decimal

inductive Floating where
  | finite (x : Decimal.Binary)
  | infinite (negative : Bool)
  | undefined
  deriving DecidableEq, Repr

namespace Floating

def text : Floating → String
  | finite x => x.text
  | infinite true => "-.inf"
  | infinite false => ".inf"
  | undefined => ".nan"

/-- Whether two floating numbers count as one key; the undefined number equals itself. -/
def equal : Floating → Floating → Bool
  | finite x, finite y => x.equal y
  | infinite a, infinite b => a == b
  | undefined, undefined => true
  | _, _ => false

end Floating

inductive Number where
  | int (n : Int)
  | float (x : Floating)
  deriving DecidableEq, Repr

namespace Number

def text : Number → String
  | int n => toString n
  | float x => x.text

/-- Whether two numbers count as one key; an integer never equals a floating number. -/
def equal : Number → Number → Bool
  | int a, int b => a == b
  | float x, float y => x.equal y
  | _, _ => false

end Number

inductive IntReading where
  | none
  | tooLarge
  | some (n : Int)
  deriving DecidableEq, Repr

/-- Whether a scalar is digits with a needless zero in front, which makes it a text. -/
def hasNeedlessZero (s : List Char) : Bool :=
  match dropSign s with
  | '0' :: rest => !rest.isEmpty && rest.all Char.isDigit
  | _ => false

/-- The magnitude of an integer without its sign: `s` is the whole scalar. -/
def magnitude? (s body : List Char) : Option Nat :=
  match body with
  | '0' :: 'x' :: rest => inBase? 16 rest
  | '0' :: 'o' :: rest => inBase? 8 rest
  | '0' :: 'b' :: rest => inBase? 2 rest
  | body => if hasNeedlessZero s then none else inBase? 10 body

/-- A number that has to fit in 64 bits, with the limits of 64 and of 128 bits. -/
def IntReading.within (limit wide : Nat) (sign : Int) (magnitude : Option Nat) : IntReading :=
  match magnitude with
  | Option.none => .none
  | Option.some n =>
    if n < limit then .some (sign * n) else if n < wide then .tooLarge else .none

def readInt (s : List Char) : IntReading :=
  match s with
  | '-' :: body => .within (Nat.pow 2 63 + 1) (Nat.pow 2 127 + 1) (-1) (magnitude? s body)
  | '+' :: body => .within (Nat.pow 2 64) (Nat.pow 2 128) 1 (magnitude? s body)
  | body => .within (Nat.pow 2 64) (Nat.pow 2 128) 1 (magnitude? s body)

def infinityWords : List String :=
  [".inf", ".Inf", ".INF"]

def undefinedWords : List String :=
  [".nan", ".NaN", ".NAN"]

/-- A scalar as a floating number; numbers too large for one are refused. -/
def readFloat? (s : List Char) : Option Floating :=
  if undefinedWords.contains (String.ofList s) then some .undefined
  else match s with
    | '-' :: body =>
      if infinityWords.contains (String.ofList body) then some (.infinite true)
      else (readDecimal? true body).map .finite
    | '+' :: body =>
      if infinityWords.contains (String.ofList body) then some (.infinite false)
      else (readDecimal? false body).map .finite
    | body =>
      if infinityWords.contains (String.ofList body) then some (.infinite false)
      else (readDecimal? false body).map .finite

end RecipePins.Yaml
