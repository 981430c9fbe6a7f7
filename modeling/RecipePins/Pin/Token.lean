import RecipePins.Text.Split

/-!
# Pin tokens

A recipe pins a dependency by a quoted token `"name/version"`, in either kind of quotation marks.
A `Pin` is one place in a recipe where a token stands; offsets count bytes of UTF-8.
-/
namespace RecipePins

structure Token where
  quote : Char
  name : String
  version : String
  deriving DecidableEq, Repr

namespace Token

/-- The token as it is written, quotation marks included. -/
def chars (t : Token) : List Char :=
  t.quote :: (t.name.toList ++ '/' :: (t.version.toList ++ [t.quote]))

def text (t : Token) : String :=
  String.ofList t.chars

def withVersion (t : Token) (version : String) : Token :=
  { t with version }

def reference (t : Token) : String :=
  t.name ++ "/" ++ t.version

end Token

/-- The number of line ends that start within the first `offset` bytes of a text. -/
def lineEndsBefore : Nat → List Char → Nat
  | _, [] => 0
  | offset, c :: s =>
    if offset = 0 then 0
    else (if c = '\n' then 1 else 0) + lineEndsBefore (offset - c.utf8Size) s

/-- A token at a place in a text. -/
structure Pin where
  token : Token
  offset : Nat
  deriving DecidableEq, Repr

namespace Pin

def length (p : Pin) : Nat :=
  Text.byteLength p.token.chars

/-- The line on which the token starts, counted from 1. -/
def line (p : Pin) (text : String) : Nat :=
  lineEndsBefore p.offset text.toList + 1

end Pin

end RecipePins
