import RecipePins.Yaml.Lexer
import RecipePins.Yaml.Link
import RecipePins.Yaml.Value

/-!
# Documents

`read` gives the value of a document: plain scalars read as what they look like, aliases as the
value of the node that they stand for. Equal keys in one mapping, integers that are too large, deep
nesting and too many aliases are refused.
-/
namespace RecipePins.Yaml

inductive Fault where
  | malformed
  | unknownAnchor
  | duplicateKey
  | numberTooLarge
  | wrongType
  | tooDeep
  | tooRepetitive
  deriving DecidableEq, Repr

namespace Fault

def message : Fault → String
  | malformed => "the text is not a single well-formed document"
  | unknownAnchor => "unknown anchor"
  | duplicateKey => "duplicate entry in a mapping"
  | numberTooLarge => "integer out of range"
  | wrongType => "a scalar does not have the type of its tag"
  | tooDeep => "recursion limit exceeded"
  | tooRepetitive => "repetition limit exceeded"

end Fault

def depthLimit : Nat := 128

def nullWords : List String :=
  ["null", "Null", "NULL", "~"]

def readBool? (s : String) : Option Bool :=
  if ["true", "True", "TRUE"].contains s then some true
  else if ["false", "False", "FALSE"].contains s then some false
  else none

def plainWord (s : List Char) : Value :=
  let float := if hasNeedlessZero s then none else readFloat? s
  match float with
  | some x => .number (.float x)
  | none => .string (String.ofList s)

def plainValue (s : List Char) : Except Fault Value :=
  let text := String.ofList s
  if s.isEmpty || nullWords.contains text then .ok .null
  else match readBool? text with
    | some b => .ok (.bool b)
    | none =>
      match readInt s with
      | .some n => .ok (.number (.int n))
      | .tooLarge => .error .numberTooLarge
      | .none => .ok (plainWord s)

def coreStem : String :=
  "tag:yaml.org,2002:"

def isCore (name : String) (tag : TagText) : Bool :=
  tag == (coreStem ++ name).toUTF8.toList

def orWrongType (v : Option Value) : Except Fault Value :=
  match v with
  | some v => .ok v
  | none => .error .wrongType

/-- The value of a scalar with a tag of the standard, for the tags that ask for a type. -/
def coreValue? (tag : TagText) (s : List Char) : Option (Except Fault Value) :=
  let text := String.ofList s
  if isCore "bool" tag then some (orWrongType ((readBool? text).map .bool))
  else if isCore "int" tag then
    some (match readInt s with
      | .some n => .ok (.number (.int n))
      | .tooLarge => .error .numberTooLarge
      | .none => .error .wrongType)
  else if isCore "float" tag then
    some (orWrongType ((readFloat? s).map fun x => .number (.float x)))
  else if isCore "null" tag then
    some (orWrongType (if nullWords.contains text then some .null else none))
  else none

def markByte : UInt8 := '!'.toUInt8

/-- A name without the mark at its start, unless it is the mark alone. -/
def dropLocalMark (name : List Char) : List Char :=
  match name with
  | '!' :: c :: rest => c :: rest
  | name => name

/-- The name of a tag that is local to the document and shows in the value: what follows one or two
marks, or the mark alone. A tag that spells no text shows nowhere. -/
def localTag? : Option TagText → Option String
  | some (mark :: name) =>
    if mark != markByte then none
    else if name.isEmpty then some "!"
    else (String.fromUTF8? ⟨name.toArray⟩).map fun s => String.ofList (dropLocalMark s.toList)
  | _ => none

/-- The value of a scalar without its local tag. Besides tags that ask for a type, a tag of the
standard makes it a text; under all other tags it reads as what it looks like. -/
def scalarValue (tag : Option TagText) (plain : Bool) (s : List Char) : Except Fault Value :=
  let text : Except Fault Value := .ok (.string (String.ofList s))
  let untyped := if plain then plainValue s else text
  match tag with
  | none => untyped
  | some tag =>
    if tag.head? = some markByte then untyped else (coreValue? tag s).getD text

def withTag (tag : Option TagText) (v : Value) : Value :=
  match localTag? tag with
  | some name => .tagged name v
  | none => v

def distinctKeys : List Value → Bool
  | [] => true
  | k :: rest => !rest.any (fun other => other.same k) && distinctKeys rest

/-- A mapping, unless two of its keys are equal. -/
def mappingOf (entries : List (Value × Value)) : Except Fault Value :=
  if distinctKeys (entries.map Prod.fst) then .ok (.mapping entries) else .error .duplicateKey

structure Document where
  root : Linked
  anchors : Anchors
  limit : Nat

abbrev Evaluation := StateT Nat (Except Fault)

namespace Document

/-- The document of a node. An alias may be followed a hundred times for each mark of the node. -/
def ofNode (n : Node) : Except Fault Document :=
  match link? n {} with
  | some (root, anchors) => .ok { root, anchors, limit := 100 * n.weight }
  | none => .error .unknownAnchor

/-- The node that an alias stands for; other nodes stand for themselves. -/
def follow (doc : Document) : Linked → Evaluation Linked
  | .alias number => do
    let followed := (← get) + 1
    set followed
    if doc.limit < followed then throw .tooRepetitive
    else match doc.anchors.target? number with
      | some n => pure n
      | none => throw .unknownAnchor
  | n => pure n

/-- The value of a node, from the values of the nodes that it encloses; without a way to get these
the nesting is too deep. -/
def evaluate (doc : Document) (enclosed : Option (Linked → Evaluation Value)) (n : Linked) :
    Evaluation Value := do
  match ← doc.follow n, enclosed with
  | .scalar tag plain s, _ => return withTag tag (← scalarValue tag plain s)
  | .sequence tag items, some value => return withTag tag (.sequence (← items.mapM value))
  | .mapping tag entries, some value =>
    let entries ← entries.mapM fun (k, v) => do return (← value k, ← value v)
    return withTag tag (← mappingOf entries)
  | .alias _, _ => throw .unknownAnchor
  | _, none => throw .tooDeep

def valueWithin (doc : Document) : Nat → Linked → Evaluation Value
  | 0 => doc.evaluate none
  | depth + 1 => doc.evaluate (some (doc.valueWithin depth))

def value (doc : Document) : Except Fault Value :=
  (doc.valueWithin depthLimit doc.root).run' 0

end Document

/-- The value of the only document of a text; nothing written reads as null. -/
def read (text : String) : Except Fault Value :=
  match (tokens? text.toList).bind document? with
  | none => .error .malformed
  | some none => .ok .null
  | some (some n) => Document.ofNode n >>= Document.value

end RecipePins.Yaml
