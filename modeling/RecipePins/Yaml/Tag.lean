import RecipePins.Yaml.Cursor
import RecipePins.Yaml.Number
import RecipePins.Yaml.Token

/-!
# Tags and anchors

Tags name the type of a node: `!<uri>` in full, or a handle such as `!` or `!!` followed by a
suffix. Percent escapes in them spell bytes, of which a zero ends the text.
-/
namespace RecipePins.Yaml

/-- Characters of a tag; `full` adds those that only a tag written in full may hold. -/
def isTagChar (full : Bool) (c : Char) : Bool :=
  Text.isNameChar c || ";/?:@&=+$.%!~*'()".toList.contains c ||
    (full && (c == ',' || c == '[' || c == ']'))

def bytesOf (s : List Char) : TagText :=
  (String.ofList s).toUTF8.toList

def escapedByte? : List Char → Option UInt8
  | '%' :: a :: b :: _ => (Text.inBase? 16 [a, b]).map Nat.toUInt8
  | _ => none

def widthOf? (byte : UInt8) : Option Nat :=
  if byte < 0x80 then some 1
  else if byte / 0x20 == 6 then some 2
  else if byte / 0x10 == 14 then some 3
  else if byte / 0x08 == 30 then some 4
  else none

/-- The `n` escaped bytes that go on a character. -/
def escapedTail? : Nat → List Char → Option TagText
  | 0, _ => some []
  | n + 1, s =>
    match escapedByte? s with
    | some byte =>
      if byte / 0x40 == 2 then (escapedTail? n (s.drop 3)).map (byte :: ·) else none
    | none => none

/-- The escaped bytes of one character at the start of a text. Their number is right for the first
of them, but they need not spell a character. -/
def escapedBytes? (s : List Char) : Option TagText := do
  let first ← escapedByte? s
  let width ← widthOf? first
  let tail ← escapedTail? (width - 1) (s.drop 3)
  some (first :: tail)

def unescapeTag : Nat → List Char → Option TagText
  | 0, _ => some []
  | _ + 1, [] => some []
  | fuel + 1, c :: s =>
    if c = '%' then
      match escapedBytes? (c :: s) with
      | some bytes => (unescapeTag fuel ((c :: s).drop (3 * bytes.length))).map (bytes ++ ·)
      | none => none
    else (unescapeTag fuel s).map (bytesOf [c] ++ ·)

/-- The text of the tag characters at the cursor, up to a zero byte, and the cursor after them. -/
def tagText? (full : Bool) (c : Cursor) : Option (TagText × Cursor) :=
  let raw := c.run (isTagChar full)
  (unescapeTag raw.length raw).map fun bytes => (bytes.takeWhile (· != 0), c.skip raw.length)

def someTagText? (full : Bool) (c : Cursor) : Option (TagText × Cursor) :=
  if (c.run (isTagChar full)).isEmpty then none else tagText? full c

/-- A handle: an exclamation mark, perhaps with a name and a second mark. A name that no mark
follows makes it the start of a suffix. -/
def tagHandle? (c : Cursor) : Option (List Char × Cursor) :=
  if c.sees '!' then
    let name := (c.skip 1).run Text.isNameChar
    let after := c.skip (name.length + 1)
    if after.sees '!' then some ('!' :: name ++ ['!'], after.skip 1) else some ('!' :: name, after)
  else none

/-- The handle and the suffix of a tag at the cursor, which stands on an exclamation mark. A full
tag has no handle, and neither has the mark alone, which is its own suffix. -/
def tagParts? (c : Cursor) : Option (List Char × TagText × Cursor) :=
  if (c.skip 1).sees '<' then do
    let (suffix, after) ← someTagText? true (c.skip 2)
    if after.sees '>' then some ([], suffix, after.skip 1) else none
  else do
    let (handle, after) ← tagHandle? c
    if handle.length > 1 && handle.getLast? == some '!' then
      let (suffix, after) ← someTagText? false after
      some (handle, suffix, after)
    else
      let (text, after) ← tagText? false after
      let suffix := bytesOf (handle.drop 1) ++ text
      if suffix.isEmpty then some ([], bytesOf ['!'], after) else some (['!'], suffix, after)

def endsAnchor (c : Cursor) : Bool :=
  c.atWordEnd || c.head?.any fun a => "?:,]\x7d%@`".toList.contains a

def anchorName? (c : Cursor) : Option (List Char × Cursor) :=
  let name := c.run Text.isNameChar
  let after := c.skip name.length
  if name.isEmpty || !endsAnchor after then none else some (name, after)

end RecipePins.Yaml
