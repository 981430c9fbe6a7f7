import RecipePins.Text.Radix
import RecipePins.Toml.Line

/-!
# Quoted texts

Texts in double quotation marks know escapes, texts in single ones stand for themselves. Either kind
may be written on several lines between tripled marks.
-/
namespace RecipePins.Toml

def escapeLetter? : Char → Option Char
  | 'b' => some '\x08'
  | 't' => some '\t'
  | 'n' => some '\n'
  | 'f' => some '\x0c'
  | 'r' => some '\r'
  | '"' => some '"'
  | '\\' => some '\\'
  | _ => none

def codePoint? (n : Nat) (s : List Char) : Option Char :=
  if (s.take n).length = n then (Text.inBase? 16 (s.take n)).bind Text.charOf? else none

/-- The character of an escape after its backslash, and the number of characters it takes. -/
def escape? : List Char → Option (Char × Nat)
  | [] => none
  | 'u' :: s => (codePoint? 4 s).map fun c => (c, 5)
  | 'U' :: s => (codePoint? 8 s).map fun c => (c, 9)
  | a :: _ => (escapeLetter? a).map fun c => (c, 1)

def withFirst (c : Char) (read : List Char × List Char) : List Char × List Char :=
  (c :: read.1, read.2)

def escapedText? : List Char → Option (List Char × List Char)
  | [] => none
  | '"' :: r => some ([], r)
  | '\\' :: r =>
    match escape? r with
    | some (c, n) => (escapedText? (r.drop n)).map (withFirst c)
    | none => none
  | c :: r => if isPlain c then (escapedText? r).map (withFirst c) else none
termination_by s => s.length
decreasing_by
  · simp only [List.length_drop, List.length_cons]; omega
  · simp

def literalText? : List Char → Option (List Char × List Char)
  | [] => none
  | '\'' :: r => some ([], r)
  | c :: r => if isPlain c then (literalText? r).map (withFirst c) else none

/-- The end of a text on several lines: three quotation marks, before which one or two more belong
to the text. -/
def closing? (mark : Char) (s : List Char) : Option (List Char × List Char) :=
  let n := min (s.takeWhile (· == mark)).length 5
  if 3 ≤ n then some (List.replicate (n - 3) mark, s.drop n) else none

def skipSpace : List Char → List Char
  | [] => []
  | '\r' :: '\n' :: r => skipSpace r
  | c :: r => if Text.isGap c || c == '\n' then skipSpace r else c :: r

/-- The text after an escaped line end, which takes all blanks and line ends after it along. -/
def escapedBreak? (mark : Char) : List Char → Option (List Char)
  | '\\' :: r => if mark = '"' then (lineBreak? (skipGaps r)).map skipSpace else none
  | _ => none

/-- The first character of a text on several lines, and the number of characters it takes. A line
end counts as a line feed. -/
def lineChar? (mark : Char) : List Char → Option (Char × Nat)
  | [] => none
  | '\n' :: _ => some ('\n', 1)
  | '\r' :: '\n' :: _ => some ('\n', 2)
  | c :: r =>
    if c = '\\' ∧ mark = '"' then (escape? r).map fun (c, n) => (c, n + 1)
    else if isPlain c then some (c, 1) else none

def linesText? (mark : Char) (s : List Char) : Option (List Char × List Char) :=
  match closing? mark s with
  | some result => some result
  | none =>
    match escapedBreak? mark s with
    | some r => if _h : r.length < s.length then linesText? mark r else none
    | none =>
      match lineChar? mark s with
      | some (c, n) =>
        if _h : (s.drop n).length < s.length then (linesText? mark (s.drop n)).map (withFirst c)
        else none
      | none => none
termination_by s.length
decreasing_by all_goals exact _h

/-- A quoted text of one or of several lines, and what follows it. A line end right after tripled
marks does not count. -/
def quotedText? : List Char → Option (List Char × List Char)
  | '"' :: '"' :: '"' :: r => linesText? '"' ((lineBreak? r).getD r)
  | '\'' :: '\'' :: '\'' :: r => linesText? '\'' ((lineBreak? r).getD r)
  | '"' :: r => escapedText? r
  | '\'' :: r => literalText? r
  | _ => none

end RecipePins.Toml
