import RecipePins.Text.Split
import RecipePins.Text.Digits

/-!
# Semantic versions

`SemanticVersion.ofString?` accepts exactly the strict form `MAJOR.MINOR.PATCH`, with an optional
pre-release after `-` and optional build metadata after `+`; the three numbers have no leading
zeros and fit in 64 bits. `lenient?` falls back on the leading dot-separated numbers, at most three
of them, so that `3.24` reads as `3.24.0` and `1.1.1w` as `1.1.0`.
-/
namespace RecipePins.Version

structure SemanticVersion where
  major : Nat
  minor : Nat
  patch : Nat
  pre : String := ""
  build : String := ""
  deriving DecidableEq, Repr

namespace SemanticVersion

def number? (s : List Char) : Option (Nat × List Char) :=
  let digits := s.takeWhile Char.isDigit
  match digits with
  | '0' :: _ :: _ => none
  | _ => (Text.readDigits? digits).map fun n => (n, s.dropWhile Char.isDigit)

def dot? : List Char → Option (List Char)
  | '.' :: s => some s
  | _ => none

def isLabelChar (c : Char) : Bool :=
  c.isAlphanum || c == '-' || c == '.'

def hasLeadingZero (part : List Char) : Bool :=
  part.all Char.isDigit && part.length > 1 && part.head? == some '0'

def label? (accepts : List Char → Bool) (s : List Char) : Option (List Char × List Char) :=
  let label := s.takeWhile isLabelChar
  if (Text.fields '.' label).all (fun part => !part.isEmpty && accepts part) then
    some (label, s.dropWhile isLabelChar)
  else none

/-- The pre-release text, empty if there is none, and what follows it. -/
def pre? : List Char → Option (List Char × List Char)
  | '-' :: s => label? (fun part => !hasLeadingZero part) s
  | s => some ([], s)

def build? : List Char → Option (List Char × List Char)
  | '+' :: s => label? (fun _ => true) s
  | s => some ([], s)

def ofChars? (s : List Char) : Option SemanticVersion := do
  let (major, s) ← number? s
  let (minor, s) ← number? (← dot? s)
  let (patch, s) ← number? (← dot? s)
  let (pre, s) ← pre? s
  let (build, s) ← build? s
  if s.isEmpty then
    some ⟨major, minor, patch, String.ofList pre, String.ofList build⟩
  else none

/-- The numbers that lead a list of components, up to the first one that is not a number. -/
def leadingNumbers : List (List Char) → List Nat
  | [] => []
  | part :: parts =>
    match Text.readWord? part with
    | some n => n :: leadingNumbers parts
    | none => []

/-- The version of up to three leading numbers; the missing ones are zero. -/
def ofNumbers? : List Nat → Option SemanticVersion
  | [] => none
  | [major] => some { major, minor := 0, patch := 0 }
  | [major, minor] => some { major, minor, patch := 0 }
  | major :: minor :: patch :: _ => some { major, minor, patch }

/-- Reads a version strictly if possible and otherwise from its leading numbers. -/
def lenient? (s : String) : Option SemanticVersion :=
  (ofChars? s.toList).orElse fun _ => ofNumbers? (leadingNumbers (Text.fields '.' s.toList))

end SemanticVersion

end RecipePins.Version
