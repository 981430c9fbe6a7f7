/-!
# Diagnostics

A diagnostic says what is wrong, where, and what can be done about it. It is shown as a few lines
of plain or coloured text.
-/
namespace RecipePins

inductive Severity where
  | error
  | warning
  deriving DecidableEq, Repr

namespace Severity

def word : Severity → String
  | error => "error"
  | warning => "warning"

/-- The terminal's colour code of a severity: bold red or bold yellow. -/
def colour : Severity → String
  | error => "1;31"
  | warning => "1;33"

end Severity

structure Location where
  path : String
  line : Option Nat
  deriving DecidableEq, Repr

namespace Location

def text (l : Location) : String :=
  match l.line with
  | some line => l.path ++ ":" ++ toString line
  | none => l.path

end Location

structure Diagnostic where
  severity : Severity
  message : String
  context : List String := []
  suggestions : List String := []
  location : Option Location := none
  deriving DecidableEq, Repr

namespace Diagnostic

def paint (colour : Bool) (code word : String) : String :=
  if colour then "\x1b[" ++ code ++ "m" ++ word ++ "\x1b[0m" else word

def numbered : Nat → List String → String
  | _, [] => ""
  | n, s :: rest => s!"  {n}. {s}\n" ++ numbered (n + 1) rest

def help (colour : Bool) (suggestions : List String) : String :=
  if suggestions.isEmpty then ""
  else "\n" ++ paint colour "1;32" "help" ++ ": consider:\n" ++ numbered 1 suggestions

def render (colour : Bool) (d : Diagnostic) : String :=
  paint colour d.severity.colour d.severity.word ++ ": " ++ d.message ++ "\n" ++
    (match d.location with
      | some l => "  --> " ++ l.text ++ "\n"
      | none => "") ++
    String.join (d.context.map fun c => "  = " ++ c ++ "\n") ++ help colour d.suggestions

def locatedAt (d : Diagnostic) (path : String) (line : Option Nat) : Diagnostic :=
  { d with location := some ⟨path, line⟩ }

end Diagnostic

end RecipePins
