import RecipePins.Shell.Arithmetic
import RecipePins.Text.Radix

/-!
# Escapes and formats

Texts with escapes, as they are written by `echo`, and formats that are filled in with arguments, as
they are written by `printf`. What they give is bytes, since an escape may name any byte.
-/
namespace RecipePins.Shell

def escapeLetter? : Char → Option UInt8
  | 'a' => some 7
  | 'b' => some 8
  | 't' => some 9
  | 'n' => some 10
  | 'v' => some 11
  | 'f' => some 12
  | 'r' => some 13
  | 'e' => some 27
  | '\\' => some 92
  | _ => none

/-- The byte of an escape after its backslash and the number of characters that it takes. Up to
three octal digits name a byte; a backslash before anything else stands for itself. -/
def escape (s : List Char) : UInt8 × Nat :=
  let digits := (s.take 3).takeWhile fun c => '0' ≤ c && c ≤ '7'
  if digits.isEmpty then
    match s.head?.bind escapeLetter? with
    | some b => (b, 1)
    | none => (92, 0)
  else ((((Text.inBase? 8 digits).getD 0) % 256).toUInt8, digits.length)

def charBytes (c : Char) : List UInt8 :=
  (String.singleton c).toUTF8.toList

/-- The bytes of a text with its escapes replaced, and whether one asked for all output to end. A
zero may stand before the octal digits of an escape. -/
def unescaped (fuel : Nat) (s : List Char) : List UInt8 × Bool :=
  match fuel, s with
  | 0, _ | _, [] => ([], false)
  | fuel + 1, '\\' :: r =>
    if r.head? = some 'c' then ([], true)
    else
      let isOctal := ((r.drop 1).head?.map fun c => '0' ≤ c && c ≤ '7').getD false
      let lead := if r.head? = some '0' && isOctal then 1 else 0
      let (b, n) := escape (r.drop lead)
      let (bs, ends) := unescaped fuel (r.drop (lead + n))
      (b :: bs, ends)
  | fuel + 1, c :: r =>
    let (bs, ends) := unescaped fuel r
    (charBytes c ++ bs, ends)

def unescape (s : String) : List UInt8 × Bool :=
  unescaped (s.length + 1) s.toList

def echoBytes (arguments : List String) : List UInt8 :=
  let (newline, rest) := match arguments with
    | "-n" :: rest => (false, rest)
    | rest => (true, rest)
  let (bs, ends) := unescape (" ".intercalate rest)
  if newline && !ends then bs ++ [10] else bs

structure Directive where
  left : Bool := false
  zeros : Bool := false
  plus : Bool := false
  blank : Bool := false
  marked : Bool := false
  width : Nat := 0
  precision : Option Nat := none
  deriving DecidableEq, Repr

namespace Directive

def withFlag (d : Directive) : Char → Directive
  | '-' => { d with left := true }
  | '0' => { d with zeros := true }
  | '+' => { d with plus := true }
  | ' ' => { d with blank := true }
  | '#' => { d with marked := true }
  | _ => d

def pad (d : Directive) (bs : List UInt8) : List UInt8 :=
  let gap := List.replicate (d.width - bs.length) 32
  if d.left then bs ++ gap else gap ++ bs

/-- A number with its sign or mark in front and zeros up to the precision or the width. -/
def number (d : Directive) (start : List Char) (digits : List Char) : List UInt8 :=
  let digits := if d.precision = some 0 && digits = ['0'] then [] else digits
  let least := match d.precision with
    | some n => n
    | none => if d.zeros && !d.left then d.width - start.length else 0
  let zeros := List.replicate (least - digits.length) '0'
  d.pad ((start ++ zeros ++ digits).flatMap charBytes)

end Directive

inductive NumberFault where
  | noNumber
  | goesOn
  deriving DecidableEq, Repr

/-- The number at the start of an argument, and what is wrong with it. A quotation mark asks for the
byte after it. -/
def numberArgument (s : List Char) : Int × Option NumberFault :=
  match s with
  | '\'' :: r | '"' :: r => ((r.head?.bind fun c => (charBytes c).head?).elim 0 (·.toNat), none)
  | s =>
    let s := s.dropWhile Text.isBlank
    let (negative, digits) := match s with
      | '-' :: r => (true, r)
      | '+' :: r => (false, r)
      | s => (false, s)
    match leadingNumber? digits with
    | some (n, rest) =>
      (if negative then -n else n, if rest.isEmpty then none else some .goesOn)
    | none => (0, if s.isEmpty then none else some .noNumber)

/-- What a format gives: bytes, complaints about arguments, the arguments that are left, and whether
all output is to end. -/
structure Filled where
  bytes : List UInt8 := []
  complaints : List String := []
  left : List String := []
  ends : Bool := false
  /-- Why the format itself is wrong, if it is. -/
  broken : Option String := none
  deriving Repr

namespace Filled

def after (bs : List UInt8) (f : Filled) : Filled :=
  { f with bytes := bs ++ f.bytes }

def complaining (c : Option String) (f : Filled) : Filled :=
  { f with complaints := c.toList ++ f.complaints }

end Filled

def complaint? (argument : String) : Option NumberFault → Option String
  | none => none
  | some .noNumber => some (argument ++ ": expected numeric value")
  | some .goesOn => some (argument ++ ": not completely converted")

def numberBytes (d : Directive) (conversion : Char) (n : Int) : List UInt8 :=
  let unsigned := (BitVec.ofInt 64 n).toNat
  match conversion with
  | 'o' => d.number (if d.marked then ['0'] else []) (Nat.toDigits 8 unsigned)
  | 'x' => d.number (if d.marked && n ≠ 0 then ['0', 'x'] else []) (Nat.toDigits 16 unsigned)
  | 'X' =>
    d.number (if d.marked && n ≠ 0 then ['0', 'X'] else [])
      ((Nat.toDigits 16 unsigned).map Char.toUpper)
  | 'u' => d.number [] (Nat.toDigits 10 unsigned)
  | _ =>
    let n := clamped n
    let start := if n < 0 then ['-'] else if d.plus then ['+'] else if d.blank then [' '] else []
    d.number start (Nat.toDigits 10 n.natAbs)

/-- The width or the precision at the start of a format, which a star takes from the arguments; what
follows it, and the arguments that are left. -/
def size (s : List Char) (arguments : List String) : Int × List Char × List String :=
  match s with
  | '*' :: r => ((numberArgument (arguments.headD "").toList).1, r, arguments.tail)
  | s => (Text.digitsValue (s.takeWhile Char.isDigit), s.dropWhile Char.isDigit, arguments)

/-- The directive after a percent sign, what follows it, and the arguments that are left. -/
def directive (s : List Char) (arguments : List String) : Directive × List Char × List String :=
  let flags := s.takeWhile ['#', '-', '+', ' ', '0'].contains
  let d := flags.foldl Directive.withFlag {}
  let (width, s, arguments) := size (s.drop flags.length) arguments
  let d := { d with width := width.natAbs, left := d.left || width < 0 }
  match s with
  | '.' :: r =>
    let (precision, s, arguments) := size r arguments
    ({ d with precision := some precision.toNat }, s, arguments)
  | s => (d, s, arguments)

def fillOnce (fuel : Nat) (s : List Char) (arguments : List String) : Filled :=
  match fuel, s with
  | 0, _ | _, [] => { left := arguments }
  | fuel + 1, '\\' :: r =>
    let (b, n) := escape r
    (fillOnce fuel (r.drop n) arguments).after [b]
  | fuel + 1, '%' :: '%' :: r => (fillOnce fuel r arguments).after [37]
  | fuel + 1, '%' :: r =>
    let (d, s, arguments) := directive r arguments
    match s with
    | [] => { left := arguments, broken := some "missing format character" }
    | conversion :: r' =>
      let argument := arguments.headD ""
      let left := arguments.tail
      let cut (bs : List UInt8) : List UInt8 := match d.precision with
        | some n => bs.take n
        | none => bs
      match conversion with
      | 's' => (fillOnce fuel r' left).after (d.pad (cut argument.toUTF8.toList))
      | 'b' =>
        let (bs, ends) := unescape argument
        if ends then { bytes := d.pad (cut bs), ends }
        else (fillOnce fuel r' left).after (d.pad (cut bs))
      | 'c' =>
        let first := argument.toUTF8.toList.head?.getD 0
        (fillOnce fuel r' left).after (d.pad [first])
      | 'd' | 'i' | 'o' | 'u' | 'x' | 'X' =>
        let (n, fault) := numberArgument argument.toList
        ((fillOnce fuel r' left).after (numberBytes d conversion n)).complaining
          (complaint? argument fault)
      | _ =>
        let text := String.ofList ('%' :: r.take (r.length - r'.length))
        { left := arguments, broken := some (text ++ ": invalid directive") }
  | fuel + 1, c :: r => (fillOnce fuel r arguments).after (charBytes c)

/-- A format filled in as often as it takes to use up all arguments, but at least once; `fuel`
bounds how often. -/
def fill (fuel : Nat) (format : List Char) (arguments : List String) : Filled :=
  match fuel with
  | 0 => {}
  | fuel + 1 =>
    let f := fillOnce (format.length + 1) format arguments
    if f.ends || f.broken.isSome || f.left.isEmpty || f.left.length = arguments.length then f
    else
      let g := fill fuel format f.left
      { g with bytes := f.bytes ++ g.bytes, complaints := f.complaints ++ g.complaints }

def filled (format : String) (arguments : List String) : Filled :=
  fill (arguments.length + 1) format.toList arguments

end RecipePins.Shell
