import RecipePins.Toml.Item

/-!
# Documents

A document is a sequence of lines: entries, headers that name the table to which the entries after
them belong, and empty lines. Naming a table or an entry twice is refused.
-/
namespace RecipePins.Toml

structure Draft where
  root : Table := []
  path : List String := []

namespace Draft

def insert? (name : List String) (v : Value) (d : Draft) : Option Draft :=
  (d.root.within? (Table.insert? name v) d.path).map fun root => { d with root }

/-- The draft after a header, which makes or names the last part of its path in its own way. -/
def header? (change : String → Table → Option Table) (path : List String) (d : Draft) :
    Option Draft :=
  match path.getLast? with
  | some name => (d.root.within? (change name) path.dropLast).map fun root => ⟨root, path⟩
  | none => none

def line? (d : Draft) : List Char → Option (Draft × List Char)
  | '[' :: '[' :: s =>
    match name? s with
    | some (path, ']' :: ']' :: r) => complete (d.header? Table.append? path) r
    | _ => none
  | '[' :: s =>
    match name? s with
    | some (path, ']' :: r) => complete (d.header? Table.open? path) r
    | _ => none
  | s =>
    match entry? value? s with
    | some ((name, v), r) => complete (d.insert? name v) r
    | none => none
where
  /-- The draft with the text after the end of its line. -/
  complete (d : Option Draft) (r : List Char) : Option (Draft × List Char) :=
    match d, lineEnd? r with
    | some d, some r => some (d, r)
    | _, _ => none

def lines? (d : Draft) (s : List Char) : Option Draft :=
  if s.isEmpty then some d
  else match lineEnd? s with
    | some r => if _h : r.length < s.length then d.lines? r else none
    | none =>
      match d.line? (skipGaps s) with
      | some (d, r) => if _h : r.length < s.length then d.lines? r else none
      | none => none
termination_by s.length

end Draft

def dropMark : List Char → List Char
  | c :: s => if c.toNat = 0xFEFF then s else c :: s
  | [] => []

def read? (text : String) : Option Table :=
  (Draft.lines? {} (dropMark text.toList)).map Draft.root

end RecipePins.Toml
