import RecipePins.Yaml.Cursor
import RecipePins.Yaml.Number

/-!
# Scalars

The three ways to write a scalar: in quotation marks, plain, and as an indented block. In the first
two a stretch of spaces and line breaks is a gap, which is folded when more text follows it.
-/
namespace RecipePins.Yaml

/-- Spaces and line breaks read since the last text. Spaces count only until the first break. -/
structure Gap where
  spaces : List Char := []
  breaks : List (List Char) := []
  /-- Whether the gap began with an escaped line break, which itself stands for nothing. -/
  escaped : Bool := false
  deriving DecidableEq, Repr

namespace Gap

def broken (g : Gap) : Bool :=
  g.escaped || !g.breaks.isEmpty

def push (a : Char) (g : Gap) : Gap :=
  if isBreak a then { g with spaces := [], breaks := g.breaks ++ [breakText a] }
  else if g.broken then g
  else { g with spaces := g.spaces ++ [a] }

def text (g : Gap) : List Char :=
  if g.escaped then g.breaks.flatten
  else if g.breaks.isEmpty then g.spaces
  else foldBreaks g.breaks

end Gap

def escapeLetter? : Char → Option Char
  | '0' => some '\x00'
  | 'a' => some '\x07'
  | 'b' => some '\x08'
  | 't' | '\t' => some '\t'
  | 'n' => some '\n'
  | 'v' => some '\x0b'
  | 'f' => some '\x0c'
  | 'r' => some '\r'
  | 'e' => some '\x1b'
  | ' ' => some ' '
  | '"' => some '"'
  | '/' => some '/'
  | '\\' => some '\\'
  | 'N' => some '\u0085'
  | '_' => some '\u00a0'
  | 'L' => some '\u2028'
  | 'P' => some '\u2029'
  | _ => none

def escapeDigits? : Char → Option Nat
  | 'x' => some 2
  | 'u' => some 4
  | 'U' => some 8
  | _ => none

def escape? : List Char → Option (Char × Nat)
  | [] => none
  | a :: s =>
    match escapeDigits? a with
    | some n =>
      if (s.take n).length = n then
        ((Text.inBase? 16 (s.take n)).bind Text.charOf?).map fun c => (c, n + 1)
      else none
    | none => (escapeLetter? a).map fun c => (c, 1)

/-- The rest of a scalar in single quotation marks; `text` holds what was read, last first. -/
def singleQuoted (c : Cursor) (gap : Gap) (text : List Char) : Option (List Char × Cursor) :=
  if c.atMarker then none
  else match _h : c.rest with
    | [] => none
    | a :: r =>
      if Text.isGap a || isBreak a then singleQuoted c.next (gap.push a) text
      else
        let text := gap.text.reverse ++ text
        if a = '\'' then
          if r.head? = some '\'' then singleQuoted (c.skip 2) {} ('\'' :: text)
          else some (text.reverse, c.skip 1)
        else singleQuoted (c.skip 1) {} (a :: text)
termination_by c.rest.length
decreasing_by
  · exact Cursor.length_next _h
  · exact Cursor.length_skip (by decide) _h
  · exact Cursor.length_skip (by decide) _h

def doubleQuoted (c : Cursor) (gap : Gap) (text : List Char) : Option (List Char × Cursor) :=
  if c.atMarker then none
  else match _h : c.rest with
    | [] => none
    | a :: r =>
      if Text.isGap a || isBreak a then doubleQuoted c.next (gap.push a) text
      else
        let text := gap.text.reverse ++ text
        if a = '"' then some (text.reverse, c.skip 1)
        else if a = '\\' then
          if r.head?.any isBreak then doubleQuoted (c.skip 1).next { escaped := true } text
          else match escape? r with
            | some (e, n) => doubleQuoted (c.skip (n + 1)) {} (e :: text)
            | none => none
        else doubleQuoted (c.skip 1) {} (a :: text)
termination_by c.rest.length
decreasing_by
  · exact Cursor.length_next _h
  · exact Nat.lt_of_le_of_lt (Cursor.length_next_le _) (Cursor.length_skip (by decide) _h)
  · exact Cursor.length_skip (Nat.succ_pos _) _h
  · exact Cursor.length_skip (by decide) _h

def endsFlowScalar (c : Char) : Bool :=
  c == ',' || c == '[' || c == ']' || c == '{' || c == '}'

/-- A plain scalar: its text, the cursor after it and the gap that follows it, and whether a line
ended in that gap. -/
structure PlainScalar where
  text : List Char
  cursor : Cursor
  broken : Bool

/-- The rest of a plain scalar. Inside brackets (`inFlow`) indicators end it; outside, text that is
indented by less than `indent`. A colon that an indicator follows is refused inside brackets. -/
def plainFrom (inFlow : Bool) (indent : Int) (c : Cursor) (gap : Gap) (text : List Char) :
    Option PlainScalar :=
  let stop : PlainScalar := ⟨text.reverse, c, gap.broken⟩
  match _h : c.rest with
  | [] => some stop
  | a :: r =>
    if Text.isGap a || isBreak a then
      if a = '\t' && gap.broken && (c.column : Int) < indent then none
      else plainFrom inFlow indent c.next (gap.push a) text
    else
      let fresh := !gap.spaces.isEmpty || gap.broken
      if fresh && !inFlow && (c.column : Int) < indent then some stop
      else if c.atMarker then some stop
      else if a = '#' && (fresh || text.isEmpty) then some stop
      else if inFlow && a = ':' && (r.head?.any fun b => endsFlowScalar b || b == '?') then none
      else if (a = ':' && Cursor.endsWord r) || (inFlow && endsFlowScalar a) then some stop
      else plainFrom inFlow indent (c.skip 1) {} (a :: (gap.text.reverse ++ text))
termination_by c.rest.length
decreasing_by
  · exact Cursor.length_next _h
  · exact Cursor.length_skip (by decide) _h

inductive Chomping where
  | strip
  | clip
  | keep
  deriving DecidableEq, Repr

def chomping? : Char → Option Chomping
  | '+' => some .keep
  | '-' => some .strip
  | _ => none

/-- The indentation that a digit asks for; zero is refused. -/
def indentation? (c : Char) : Option Nat :=
  if c.isDigit && c != '0' then some (c.toNat - 48) else none

/-- The chomping and the indentation of the head of a block scalar, in either order and both
optional, and the cursor after them. -/
def blockHead? (c : Cursor) : Option (Chomping × Option Nat × Cursor) :=
  let digit? (c : Cursor) : Option (Option Nat × Cursor) :=
    match c.head? with
    | some a =>
      if a.isDigit then (indentation? a).map fun n => (some n, c.skip 1) else some (none, c)
    | none => some (none, c)
  match c.head?.bind chomping? with
  | some chomping => (digit? (c.skip 1)).map fun (n, c) => (chomping, n, c)
  | none =>
    (digit? c).map fun (n, c) =>
      match n, c.head?.bind chomping? with
      | some n, some chomping => (chomping, some n, c.skip 1)
      | n, _ => (.clip, n, c)

/-- The empty lines before a line of a block scalar: their breaks, the greatest column reached, and
the cursor at the text. With `indent` zero the indentation is not yet known; tabs are refused where
indentation is expected. -/
def emptyLines (indent : Nat) (c : Cursor) (deepest : Nat) (breaks : List Char) :
    Option (List Char × Nat × Cursor) :=
  match _h : c.rest with
  | [] => some (breaks, max deepest c.column, c)
  | a :: _ =>
    let inIndent := indent == 0 || c.column < indent
    if inIndent && a = ' ' then emptyLines indent c.next deepest breaks
    else if inIndent && a = '\t' then none
    else if isBreak a then
      emptyLines indent c.next (max deepest c.column) (breaks ++ breakText a)
    else some (breaks, max deepest c.column, c)
termination_by c.rest.length
decreasing_by
  · exact Cursor.length_next _h
  · exact Cursor.length_next _h

/-- What has been read of a block scalar: its text, the break that ended the last line, the breaks
of the empty lines after that, and whether the last line began with a space or a tab. -/
structure BlockText where
  text : List Char := []
  lineBreak : List Char := []
  emptyBreaks : List Char := []
  indented : Bool := false

namespace BlockText

/-- The text with the pending breaks before a line that begins with `a`. A folded scalar turns a
single break between two lines that are not indented further into a space. -/
def join (literal : Bool) (a : Char) (b : BlockText) : List Char :=
  if !literal && b.lineBreak == ['\n'] && !b.indented && !Text.isGap a then
    b.text ++ (if b.emptyBreaks.isEmpty then [' '] else b.emptyBreaks)
  else b.text ++ b.lineBreak ++ b.emptyBreaks

def finish (chomping : Chomping) (b : BlockText) : List Char :=
  match chomping with
  | .strip => b.text
  | .clip => b.text ++ b.lineBreak
  | .keep => b.text ++ b.lineBreak ++ b.emptyBreaks

end BlockText

def blockLines (literal : Bool) (indent : Nat) : Nat → Cursor → BlockText →
    Option (BlockText × Cursor)
  | 0, c, b => some (b, c)
  | fuel + 1, c, b =>
    match c.rest with
    | [] => some (b, c)
    | a :: _ =>
      if c.column = indent then
        let line := c.run fun a => !isBreak a
        let after := c.skip line.length
        let lineBreak := (after.head?.map breakText).getD []
        match emptyLines indent after.next 0 [] with
        | some (breaks, _, c) =>
          blockLines literal indent fuel c
            ⟨b.join literal a ++ line, lineBreak, breaks, Text.isGap a⟩
        | none => none
      else some (b, c)

/-- A block scalar after its indicator, inside a block of indentation `outer`. -/
def blockScalar (literal : Bool) (outer : Int) (c : Cursor) : Option (List Char × Cursor) := do
  let (chomping, given, c) ← blockHead? c
  let c ← c.finishLine?
  let known := match given with
    | some n => (max outer 0).toNat + n
    | none => 0
  let (breaks, deepest, c) ← emptyLines known c 0 []
  let indent := if known = 0 then max (max deepest (outer + 1).toNat) 1 else known
  let (b, c) ← blockLines literal indent c.rest.length c { emptyBreaks := breaks }
  some (b.finish chomping, c)

end RecipePins.Yaml
