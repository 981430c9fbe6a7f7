/-!
# Runs of decimal digits

Numbers in version identifiers have no size limit, so they stay digit runs: `compareDigits` orders
two runs by their values without computing either, longer first once leading zeros are gone.
`digitsValue` is the value of a run, and `readWord?` reads a number that has to fit in 64 bits.
-/
namespace RecipePins.Text

/-- A digit run without its leading zeros; a run of zeros becomes empty. -/
def dropZeros (digits : List Char) : List Char :=
  digits.dropWhile (· == '0')

/-- A digit run without needless zeros: `007` is `7` and `00` is `0`. -/
def plainDigits (digits : List Char) : List Char :=
  match dropZeros digits with
  | [] => ['0']
  | d :: ds => d :: ds

def digitValue (c : Char) : Nat :=
  c.toNat - '0'.toNat

def digitsValue (digits : List Char) : Nat :=
  digits.foldl (fun n c => 10 * n + digitValue c) 0

/-- Orders digit runs as numbers: the longer run is greater once leading zeros are dropped, and
runs of one length compare digit by digit. -/
def compareDigits (a b : List Char) : Ordering :=
  (compare (dropZeros a).length (dropZeros b).length).then (compare (dropZeros a) (dropZeros b))

def isDigitRun (s : List Char) : Bool :=
  !s.isEmpty && s.all Char.isDigit

/-- The first number that does not fit in 64 bits. -/
def wordLimit : Nat := Nat.pow 2 64

/-- Reads a digit run as a 64-bit number; larger values are refused. -/
def readDigits? (s : List Char) : Option Nat :=
  if isDigitRun s && digitsValue s < wordLimit then some (digitsValue s) else none

/-- Reads a 64-bit number, which may carry one leading plus sign. -/
def readWord? : List Char → Option Nat
  | '+' :: s => readDigits? s
  | s => readDigits? s

def decimal (n : Nat) : List Char :=
  Nat.toDigits 10 n

end RecipePins.Text
