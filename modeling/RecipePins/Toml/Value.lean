/-!
# Values of configuration files

A table is a list of entries with distinct names. Besides its entries a table within a document has
an origin, which decides what may still be added to it.
-/
namespace RecipePins.Toml

/-- How a table came to be: written in braces, named by a header, lying on the way to the table that
a header names, or made by a dotted name. -/
inductive Origin where
  | inline
  | header
  | implied
  | dotted
  deriving DecidableEq, Repr

/-- A value. Floating numbers and moments keep their spelling. A sequence of tables made by headers
has at least one table; the latest one is the one that may still grow. -/
inductive Value where
  | string (s : String)
  | integer (n : Int)
  | float (text : String)
  | boolean (b : Bool)
  | moment (text : String)
  | array (items : List Value)
  | table (origin : Origin) (entries : List (String × Value))
  | tables (latest : List (String × Value)) (earlier : List (List (String × Value)))

abbrev Table := List (String × Value)

namespace Table

def replace (name : String) (value : Value) : Table → Table
  | [] => []
  | (k, v) :: rest => if k = name then (k, value) :: rest else (k, v) :: replace name value rest

def growsByName (origin : Origin) (last : Bool) : Bool :=
  match origin with
  | .dotted => true
  | .implied => !last
  | .inline | .header => false

/-- A table with a value added under a dotted name, if that is free. -/
def insert? : List String → Value → Table → Option Table
  | [], _, _ => none
  | [k], v, t =>
    match t.lookup k with
    | none => some (t ++ [(k, v)])
    | some _ => none
  | k :: ks, v, t =>
    match t.lookup k with
    | none => (insert? ks v []).map fun sub => t ++ [(k, .table .dotted sub)]
    | some (.table origin sub) =>
      if growsByName origin ks.tail.isEmpty then
        (insert? ks v sub).map fun sub => replace k (.table origin sub) t
      else none
    | some (.tables latest earlier) =>
      if ks.tail.isEmpty then none
      else (insert? ks v latest).map fun latest => replace k (.tables latest earlier) t
    | some _ => none

/-- A table changed at the end of a header's path. Tables missing on the way are made, and the way
leads through the latest table of a sequence. -/
def within? (change : Table → Option Table) : List String → Table → Option Table
  | [], t => change t
  | k :: ks, t =>
    match t.lookup k with
    | none => (within? change ks []).map fun sub => t ++ [(k, .table .implied sub)]
    | some (.table .inline _) => none
    | some (.table origin sub) =>
      (within? change ks sub).map fun sub => replace k (.table origin sub) t
    | some (.tables latest earlier) =>
      (within? change ks latest).map fun latest => replace k (.tables latest earlier) t
    | some _ => none

/-- A table with the table that a header names, if the header may name it. -/
def open? (name : String) (t : Table) : Option Table :=
  match t.lookup name with
  | none => some (t ++ [(name, .table .header [])])
  | some (.table .implied sub) => some (replace name (.table .header sub) t)
  | some _ => none

def append? (name : String) (t : Table) : Option Table :=
  match t.lookup name with
  | none => some (t ++ [(name, .tables [] [])])
  | some (.tables latest earlier) => some (replace name (.tables [] (latest :: earlier)) t)
  | some _ => none

end Table

end RecipePins.Toml
