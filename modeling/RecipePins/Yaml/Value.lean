import RecipePins.Text.Escaped
import RecipePins.Yaml.Number

/-!
# Values

The values that documents hold. Entries of a mapping keep their order, which does not count when
mappings are compared.
-/
namespace RecipePins.Yaml

inductive Value where
  | null
  | bool (b : Bool)
  | number (n : Number)
  | string (s : String)
  | sequence (items : List Value)
  | mapping (entries : List (Value × Value))
  | tagged (tag : String) (value : Value)

namespace Value

mutual

def same : Value → Value → Bool
  | null, null => true
  | bool a, bool b => a == b
  | number a, number b => a.equal b
  | string a, string b => a == b
  | sequence a, sequence b => sameItems a b
  | mapping a, mapping b => a.length == b.length && eachIn a b
  | tagged s a, tagged t b => s == t && same a b
  | _, _ => false

def sameItems : List Value → List Value → Bool
  | [], [] => true
  | a :: as, b :: bs => same a b && sameItems as bs
  | _, _ => false

def eachIn : List (Value × Value) → List (Value × Value) → Bool
  | [], _ => true
  | (k, v) :: rest, other => other.any (fun e => same k e.1 && same v e.2) && eachIn rest other

end

def commaSeparated : List String → String
  | [] => ""
  | [s] => s
  | s :: rest => s ++ ", " ++ commaSeparated rest

mutual

def describe : Value → String
  | null => "Null"
  | bool true => "Bool(true)"
  | bool false => "Bool(false)"
  | number n => "Number(" ++ n.text ++ ")"
  | string s => "String(" ++ Text.quoted s ++ ")"
  | sequence items => "Sequence [" ++ commaSeparated (describeItems items) ++ "]"
  | mapping entries => "Mapping \x7b" ++ commaSeparated (describeEntries entries) ++ "\x7d"
  | tagged tag value =>
    "TaggedValue \x7b tag: !" ++ tag ++ ", value: " ++ describe value ++ " \x7d"

def describeItems : List Value → List String
  | [] => []
  | v :: rest => describe v :: describeItems rest

def describeEntries : List (Value × Value) → List String
  | [] => []
  | (k, v) :: rest => (describeKey k ++ ": " ++ describe v) :: describeEntries rest

/-- A key spelled out; the kind of a simple key is left out. -/
def describeKey : Value → String
  | bool true => "true"
  | bool false => "false"
  | number n => n.text
  | string s => Text.quoted s
  | v => describe v

end

def untagged : Value → Value
  | tagged _ v => untagged v
  | v => v

def get? (key : String) (v : Value) : Option Value :=
  match v.untagged with
  | mapping entries => (entries.find? fun e => same (string key) e.1).map Prod.snd
  | _ => none

def entries? (v : Value) : Option (List (Value × Value)) :=
  match v.untagged with
  | mapping entries => some entries
  | _ => none

end Value

end RecipePins.Yaml
