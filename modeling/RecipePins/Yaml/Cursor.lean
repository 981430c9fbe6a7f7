import RecipePins.Text.Split
import RecipePins.Text.CharClass

/-!
# Reading positions

A cursor is what is left of a document together with the line and column reached and the number of
bytes read. A carriage return followed by a line feed is one line break.
-/
namespace RecipePins.Yaml

/-- The characters that a document may hold: tabs, line breaks and everything that prints. -/
def isAllowed (c : Char) : Bool :=
  let n := c.toNat
  n == 0x09 || n == 0x0A || n == 0x0D || (0x20 ≤ n && n ≤ 0x7E) || n == 0x85 ||
    (0xA0 ≤ n && n ≤ 0xD7FF) || (0xE000 ≤ n && n ≤ 0xFFFD) || 0x10000 ≤ n

def isBreak (c : Char) : Bool :=
  let n := c.toNat
  n == 0x0A || n == 0x0D || n == 0x85 || n == 0x2028 || n == 0x2029

structure Cursor where
  rest : List Char
  line : Nat := 0
  column : Nat := 0
  index : Nat := 0
  deriving DecidableEq, Repr

namespace Cursor

def next (c : Cursor) : Cursor :=
  match c.rest with
  | [] => c
  | '\r' :: '\n' :: r => { rest := r, line := c.line + 1, column := 0, index := c.index + 2 }
  | a :: r =>
    let index := c.index + a.utf8Size
    if isBreak a then { rest := r, line := c.line + 1, column := 0, index }
    else { c with rest := r, column := c.column + 1, index }

/-- The cursor after some characters none of which breaks the line. -/
def skip (n : Nat) (c : Cursor) : Cursor :=
  { c with
    rest := c.rest.drop n
    column := c.column + n
    index := c.index + Text.byteLength (c.rest.take n) }

def run (p : Char → Bool) (c : Cursor) : List Char :=
  c.rest.takeWhile p

def skipRun (p : Char → Bool) (c : Cursor) : Cursor :=
  c.skip (c.run p).length

def head? (c : Cursor) : Option Char :=
  c.rest.head?

def sees (a : Char) (c : Cursor) : Bool :=
  c.head? == some a

/-- Whether a text is at its end or goes on with a space, a tab or a line break. -/
def endsWord : List Char → Bool
  | [] => true
  | a :: _ => Text.isGap a || isBreak a

def atWordEnd (c : Cursor) : Bool :=
  endsWord c.rest

def atLineEnd (c : Cursor) : Bool :=
  match c.rest with
  | [] => true
  | a :: _ => isBreak a

/-- Whether a line starts here that is a document marker: three hyphens or three dots. -/
def atMarker (c : Cursor) : Bool :=
  c.column == 0 &&
    match c.rest with
    | '-' :: '-' :: '-' :: r => endsWord r
    | '.' :: '.' :: '.' :: r => endsWord r
    | _ => false

/-- The cursor after a byte order mark at the start of its line. The mark takes a column. -/
def skipMark (c : Cursor) : Cursor :=
  if c.column = 0 && c.head?.any (·.toNat = 0xFEFF) then c.skip 1 else c

/-- The cursor after the rest of its line, if that is blank or a comment, and after its break. -/
def finishLine? (c : Cursor) : Option Cursor :=
  let c := c.skipRun Text.isGap
  let c := if c.sees '#' then c.skipRun fun a => !isBreak a else c
  if c.atLineEnd then some c.next else none

theorem length_next {c : Cursor} {a : Char} {r : List Char} (h : c.rest = a :: r) :
    c.next.rest.length < c.rest.length := by
  rw [next]
  split
  · next hn => simp [hn] at h
  · next hr => simp only [hr, List.length_cons]; omega
  · next b s _ hr =>
    split <;> simp [hr]

theorem length_next_le (c : Cursor) : c.next.rest.length ≤ c.rest.length := by
  cases h : c.rest with
  | nil => simp [next, h]
  | cons a r => exact h ▸ Nat.le_of_lt (length_next h)

theorem length_skip {c : Cursor} {n : Nat} {a : Char} {r : List Char} (hn : 0 < n)
    (h : c.rest = a :: r) : (c.skip n).rest.length < c.rest.length := by
  simp only [skip, h, List.length_drop, List.length_cons]
  omega

end Cursor

/-- The text that a line break stands for: a line feed, except for the two Unicode separators,
which stand for themselves. -/
def breakText (c : Char) : List Char :=
  if c.toNat == 0x2028 || c.toNat == 0x2029 then [c] else ['\n']

/-- The line breaks of a stretch of text as one: a single line feed becomes a space, further breaks
after a line feed stay, and other breaks stay as they are. -/
def foldBreaks : List (List Char) → List Char
  | [] => []
  | first :: more =>
    if first == ['\n'] then if more.isEmpty then [' '] else more.flatten
    else first ++ more.flatten

end RecipePins.Yaml
