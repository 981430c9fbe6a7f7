import RecipePins.Text.Split
import RecipePins.Text.CharClass

/-!
# Blanks, comments and line ends

Lines end in a line feed, with or without a carriage return before it. A comment goes on to the end
of its line.
-/
namespace RecipePins.Toml

/-- The characters that may stand in texts and comments: tabs and all that are no ASCII controls. -/
def isPlain (c : Char) : Bool :=
  c == '\t' || (0x20 ≤ c.toNat && c.toNat != 0x7F)

def skipGaps (s : List Char) : List Char :=
  s.dropWhile Text.isGap

def skipComment (s : List Char) : List Char :=
  if s.head? = some '#' then s.dropWhile isPlain else s

def lineBreak? : List Char → Option (List Char)
  | '\n' :: r => some r
  | '\r' :: '\n' :: r => some r
  | _ => none

/-- The text after the rest of a line that holds nothing but blanks and a comment. -/
def lineEnd? (s : List Char) : Option (List Char) :=
  match skipComment (skipGaps s) with
  | [] => some []
  | r => lineBreak? r

/-- A text without the blanks, line ends and comments at its start. -/
def skipLines (s : List Char) : List Char :=
  match lineBreak? (skipComment (skipGaps s)) with
  | some r => if _h : r.length < s.length then skipLines r else skipGaps s
  | none => skipGaps s
termination_by s.length

end RecipePins.Toml
