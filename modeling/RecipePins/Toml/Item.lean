import RecipePins.Toml.Bare
import RecipePins.Toml.Quoted

/-!
# Names and values

A name is a sequence of parts with dots between them, each bare or quoted. Values may nest in arrays
and in tables written in braces, up to a limit.
-/
namespace RecipePins.Toml

/-- Names have at most this many parts, and values at most this many levels of nesting. -/
def nestingLimit : Nat := 79

def namePart? : List Char → Option (String × List Char)
  | '"' :: r => (escapedText? r).map fun (part, r) => (String.ofList part, r)
  | '\'' :: r => (literalText? r).map fun (part, r) => (String.ofList part, r)
  | s =>
    let part := s.takeWhile Text.isNameChar
    if part.isEmpty then none else some (String.ofList part, s.dropWhile Text.isNameChar)

def nameParts? (s : List Char) : Option (List String × List Char) :=
  match namePart? (skipGaps s) with
  | none => none
  | some (part, r) =>
    match skipGaps r with
    | '.' :: r =>
      if _h : r.length < s.length then (nameParts? r).map fun (parts, r) => (part :: parts, r)
      else none
    | r => some ([part], r)
termination_by s.length

def name? (s : List Char) : Option (List String × List Char) :=
  (nameParts? s).filter fun (parts, _) => parts.length ≤ nestingLimit

/-- The values of an array after its opening bracket, and what follows its closing one. Values may
stand on several lines, and a comma may follow the last one. -/
def arrayItems? (value? : List Char → Option (Value × List Char)) (s : List Char) :
    Option (List Value × List Char) :=
  match skipLines s with
  | ']' :: r => some ([], r)
  | r =>
    match value? r with
    | none => none
    | some (v, r) =>
      match skipLines r with
      | ']' :: r => some ([v], r)
      | ',' :: r =>
        if _h : r.length < s.length then (arrayItems? value? r).map fun (vs, r) => (v :: vs, r)
        else none
      | _ => none
termination_by s.length

def entry? (value? : List Char → Option (Value × List Char)) (s : List Char) :
    Option ((List String × Value) × List Char) :=
  match name? s with
  | some (name, '=' :: r) => (value? (skipGaps r)).map fun (v, r) => ((name, v), r)
  | _ => none

def inlineEntries? (value? : List Char → Option (Value × List Char)) (table : Table)
    (s : List Char) : Option (Table × List Char) :=
  match entry? value? s with
  | none => none
  | some ((name, v), r) =>
    match table.insert? name v with
    | none => none
    | some table =>
      match skipGaps r with
      | '\x7d' :: r => some (table, r)
      | ',' :: r => if _h : r.length < s.length then inlineEntries? value? table r else none
      | _ => none
termination_by s.length

/-- The entries of a table after its opening brace, and what follows its closing one. They stand on
one line, and no comma follows the last one. -/
def inlineTable? (value? : List Char → Option (Value × List Char)) (s : List Char) :
    Option (Table × List Char) :=
  match skipGaps s with
  | '\x7d' :: r => some ([], r)
  | r => inlineEntries? value? [] r

def valueWithin? (levels : Nat) (s : List Char) : Option (Value × List Char) :=
  match s, levels with
  | '[' :: _, 0 | '\x7b' :: _, 0 => none
  | '[' :: r, levels + 1 =>
    (arrayItems? (valueWithin? levels) r).map fun (vs, r) => (.array vs, r)
  | '\x7b' :: r, levels + 1 =>
    (inlineTable? (valueWithin? levels) r).map fun (t, r) => (.table .inline t, r)
  | '"' :: _, _ | '\'' :: _, _ =>
    (quotedText? s).map fun (text, r) => (.string (String.ofList text), r)
  | _, _ => bare? s

def value? (s : List Char) : Option (Value × List Char) :=
  valueWithin? nestingLimit s

end RecipePins.Toml
