import RecipePins.Yaml.Scalar
import RecipePins.Yaml.Tag

/-!
# From text to tokens

Indentation opens and closes blocks. A colon may make a key of what stands before it on its line:
the place of a possible key is kept, and when the colon comes the key token is inserted there.
-/
namespace RecipePins.Yaml

/-- Where a key may have started. It is required if a block mapping of its column is open, so that
nothing but a key can stand there. -/
structure KeyPlace where
  required : Bool
  number : Nat
  line : Nat
  column : Nat
  index : Nat

/-- A lexer at work: the position, the tokens read so far with the last one first and their number,
the indentation of the open blocks, whether a key may start here, and the possible key of every
open bracket with the innermost first; the last of these belongs to the block level. -/
structure Lexer where
  cursor : Cursor
  tokens : List Token := []
  count : Nat := 0
  indent : Int := -1
  indents : List Int := []
  keyAllowed : Bool := true
  keys : List (Option KeyPlace) := [none]

namespace Lexer

def inFlow (l : Lexer) : Bool :=
  l.keys.length > 1

def emit (t : Token) (l : Lexer) : Lexer :=
  { l with tokens := t :: l.tokens, count := l.count + 1 }

/-- The lexer with a token inserted as the one of a given number. -/
def insert (number : Nat) (t : Token) (l : Lexer) : Lexer :=
  { l with tokens := l.tokens.insertIdx (l.count - number) t, count := l.count + 1 }

def moveTo (c : Cursor) (l : Lexer) : Lexer :=
  { l with cursor := c }

def allowKey (allowed : Bool) (l : Lexer) : Lexer :=
  { l with keyAllowed := allowed }

/-- Blanks, comments and line breaks skipped, and byte order marks that start a line. Tabs are not
blanks where a key may start. -/
def skipBlanks : Nat → Lexer → Lexer
  | 0, l => l
  | fuel + 1, l =>
    let tabs := l.inFlow || !l.keyAllowed
    let c := l.cursor.skipMark.skipRun fun a => a == ' ' || (tabs && a == '\t')
    let c := if c.sees '#' then c.skipRun fun a => !isBreak a else c
    if c.head?.any isBreak then
      skipBlanks fuel { l with cursor := c.next, keyAllowed := l.keyAllowed || !l.inFlow }
    else l.moveTo c

/-- Whether a key that started at a place can no longer be followed by its colon: it has to end on
its line and within 1024 bytes. -/
def isStale (c : Cursor) (k : KeyPlace) : Bool :=
  k.line < c.line || k.index + 1024 < c.index

/-- Possible keys without the stale ones; a required key must not be stale. -/
def freshKeys? (c : Cursor) : List (Option KeyPlace) → Option (List (Option KeyPlace))
  | [] => some []
  | none :: rest => (freshKeys? c rest).map (none :: ·)
  | some k :: rest =>
    if isStale c k then
      if k.required then none else (freshKeys? c rest).map (none :: ·)
    else (freshKeys? c rest).map (some k :: ·)

def dropStale? (l : Lexer) : Option Lexer :=
  (freshKeys? l.cursor l.keys).map fun keys => { l with keys }

/-- The possible key of the innermost level given up; it must not be required. -/
def dropKey? (l : Lexer) : Option Lexer :=
  match l.keys with
  | some k :: rest => if k.required then none else some { l with keys := none :: rest }
  | _ => some l

/-- The place of the next token kept as that of a possible key, if one may start here. -/
def saveKey? (l : Lexer) : Option Lexer :=
  if l.keyAllowed then
    let c := l.cursor
    let required := !l.inFlow && l.indent == c.column
    (dropKey? l).map fun l =>
      { l with keys := some ⟨required, l.count, c.line, c.column, c.index⟩ :: l.keys.tail }
  else some l

/-- A block opened at a column that is indented further, its token inserted under a number. -/
def openBlock (column number : Nat) (t : Token) (l : Lexer) : Lexer :=
  if !l.inFlow && l.indent < column then
    { l.insert number t with indent := column, indents := l.indent :: l.indents }
  else l

/-- The blocks closed that are indented further than a column. -/
def closeBlocks (column : Int) : Nat → Lexer → Lexer
  | 0, l => l
  | fuel + 1, l =>
    if !l.inFlow && column < l.indent then
      closeBlocks column fuel
        { l.emit .blockEnd with indent := l.indents.headD (-1), indents := l.indents.tail }
    else l

def unindent (column : Int) (l : Lexer) : Lexer :=
  closeBlocks column (l.indents.length + 1) l

def leaveBlocks? (l : Lexer) : Option Lexer :=
  (l.unindent (-1)).dropKey?

def openFlow? (t : Token) (l : Lexer) : Option Lexer :=
  l.saveKey?.map fun l =>
    { (l.moveTo (l.cursor.skip 1)).emit t with keys := none :: l.keys, keyAllowed := true }

def closeFlow? (t : Token) (l : Lexer) : Option Lexer :=
  l.dropKey?.map fun l =>
    { (l.moveTo (l.cursor.skip 1)).emit t with
      keys := if l.inFlow then l.keys.tail else l.keys
      keyAllowed := false }

def comma? (l : Lexer) : Option Lexer :=
  l.dropKey?.map fun l => ((l.moveTo (l.cursor.skip 1)).emit .comma).allowKey true

/-- The hyphen of a sequence entry, or with `key` the question mark of a key. Outside brackets it
may open a block. -/
def entry? (block t : Token) (keyAfter : Lexer → Bool) (l : Lexer) : Option Lexer :=
  if !l.inFlow && !l.keyAllowed then none
  else (dropKey? (l.openBlock l.cursor.column l.count block)).map fun l =>
    ((l.moveTo (l.cursor.skip 1)).emit t).allowKey (keyAfter l)

/-- The colon before a value. It makes a key of what stands at the kept place, if there is one. -/
def value? (l : Lexer) : Option Lexer :=
  let finish (l : Lexer) : Lexer := (l.moveTo (l.cursor.skip 1)).emit .value
  match l.keys with
  | some k :: rest =>
    let l := (l.insert k.number .key).openBlock k.column k.number .blockMapping
    some (finish { l with keys := none :: rest, keyAllowed := false })
  | _ =>
    if !l.inFlow && !l.keyAllowed then none
    else some (finish
      ((l.openBlock l.cursor.column l.count .blockMapping).allowKey (!l.inFlow)))

/-- A token at which a key may start and after which none may: an anchor, an alias, a tag or a
quoted scalar. -/
def leaf? (read : Cursor → Option (Token × Cursor)) (l : Lexer) : Option Lexer := do
  let l ← l.saveKey?
  let (t, c) ← read l.cursor
  some (((l.moveTo c).emit t).allowKey false)

/-- A plain scalar. If a line ends after it, a key may start there. -/
def plain? (l : Lexer) : Option Lexer := do
  let l ← l.saveKey?
  let s ← plainFrom l.inFlow (l.indent + 1) l.cursor {} []
  some (((l.moveTo s.cursor).emit (.scalar true s.text)).allowKey s.broken)

def block? (literal : Bool) (l : Lexer) : Option Lexer := do
  let l ← l.dropKey?
  let (text, c) ← blockScalar literal l.indent (l.cursor.skip 1)
  some (((l.moveTo c).emit (.scalar false text)).allowKey true)

def versionNumber? (c : Cursor) : Option (Nat × Cursor) :=
  let digits := c.run Char.isDigit
  if digits.isEmpty || digits.length > 9 then none
  else some (Text.digitsValue digits, c.skip digits.length)

def versionDirective? (c : Cursor) : Option (Token × Cursor) := do
  let (major, c) ← versionNumber? (c.skipRun Text.isGap)
  if !c.sees '.' then none
  else
    let (minor, c) ← versionNumber? (c.skip 1)
    some (.version major minor, c)

def tagDirective? (c : Cursor) : Option (Token × Cursor) := do
  let (handle, c) ← tagHandle? (c.skipRun Text.isGap)
  if handle.length > 1 && handle.getLast? != some '!' then none
  else if !c.head?.any Text.isGap then none
  else
    let (stem, c) ← someTagText? true (c.skipRun Text.isGap)
    if !c.atWordEnd then none else some (.tagHandle handle stem, c)

/-- A directive; unknown ones are refused. -/
def directive? (l : Lexer) : Option Lexer := do
  let l ← l.leaveBlocks?
  let c := l.cursor.skip 1
  let name := c.run Text.isNameChar
  let c := c.skip name.length
  if !c.atWordEnd then none
  else
    let (t, c) ←
      if name == "YAML".toList then versionDirective? c
      else if name == "TAG".toList then tagDirective? c
      else none
    let c ← c.finishLine?
    some (((l.moveTo c).emit t).allowKey false)

def marker? (t : Token) (l : Lexer) : Option Lexer :=
  l.leaveBlocks?.map fun l => ((l.moveTo (l.cursor.skip 3)).emit t).allowKey false

/-- Whether a plain scalar can start with a character that some text follows. -/
def startsPlain (inFlow : Bool) (a : Char) (after : List Char) : Bool :=
  if a = '-' then !after.head?.any Text.isGap
  else if a = '?' || a = ':' then !inFlow && !Cursor.endsWord after
  else !Text.isGap a && !isBreak a && !",[]\x7b\x7d#&*!|>'\"%@`".toList.contains a

def token? (a : Char) (after : List Char) (l : Lexer) : Option Lexer :=
  let spaced := Cursor.endsWord after
  if l.cursor.column = 0 && a = '%' then l.directive?
  else if l.cursor.atMarker then
    l.marker? (if a = '-' then .documentStart else .documentEnd)
  else if a = '[' then l.openFlow? .openSequence
  else if a = '{' then l.openFlow? .openMapping
  else if a = ']' then l.closeFlow? .closeSequence
  else if a = '}' then l.closeFlow? .closeMapping
  else if a = ',' then l.comma?
  else if a = '-' && spaced then l.entry? .blockSequence .item fun _ => true
  else if a = '?' && (l.inFlow || spaced) then l.entry? .blockMapping .key fun l => !l.inFlow
  else if a = ':' && (l.inFlow || spaced) then l.value?
  else if a = '*' then
    l.leaf? fun c => (anchorName? (c.skip 1)).map fun (name, c) => (.alias name, c)
  else if a = '&' then
    l.leaf? fun c => (anchorName? (c.skip 1)).map fun (name, c) => (.anchor name, c)
  else if a = '!' then
    l.leaf? fun c => (tagParts? c).bind fun (handle, suffix, c) =>
      if c.atWordEnd || (l.inFlow && c.sees ',') then some (.tag handle suffix, c) else none
  else if a = '|' && !l.inFlow then l.block? true
  else if a = '>' && !l.inFlow then l.block? false
  else if a = '\'' then
    l.leaf? fun c => (singleQuoted (c.skip 1) {} []).map fun (text, c) => (.scalar false text, c)
  else if a = '"' then
    l.leaf? fun c => (doubleQuoted (c.skip 1) {} []).map fun (text, c) => (.scalar false text, c)
  else if startsPlain l.inFlow a after then l.plain?
  else none

def run : Nat → Lexer → Option (List Token)
  | 0, _ => none
  | fuel + 1, l => do
    let l ← (l.skipBlanks (l.cursor.rest.length + 1)).dropStale?
    let l := l.unindent l.cursor.column
    match l.cursor.rest with
    | [] => (l.leaveBlocks?).map fun l => l.tokens.reverse
    | a :: after => run fuel (← l.token? a after)

end Lexer

/-- The tokens of a text, unless it holds a character that no document may hold or something that
is no token. -/
def tokens? (text : List Char) : Option (List Token) :=
  if text.all isAllowed then Lexer.run (text.length + 2) { cursor := { rest := text } } else none

end RecipePins.Yaml
