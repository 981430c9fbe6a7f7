import RecipePins.Config.Basic
import RecipePins.Toml.Document

/-!
# Reading configurations

The settings are fields of three sections, and the override rules are the entries of a fourth one.
Unknown names are passed over, and a value of the wrong kind makes the whole text invalid. The three
sections may also be arrays that give their fields in order, and a moment counts as a section
without any field.
-/
namespace RecipePins.Config
open Toml

def text? : Value → Option String
  | .string s => some s
  | _ => none

def flag? : Value → Option Bool
  | .boolean b => some b
  | _ => none

def texts? : Value → Option (List String)
  | .array items => items.mapM text?
  | _ => none

def isEmpty : Value → Bool
  | .table _ entries => entries.isEmpty
  | .array items => items.isEmpty
  | _ => false

def word? : Value → Option String
  | .string s => some s
  | .table _ [(name, v)] => if isEmpty v then some name else none
  | _ => none

def precision? (v : Value) : Option FloorDepth :=
  match word? v with
  | some "major" => some .major
  | some "major-minor" => some .majorMinor
  | _ => none

def rule? : Value → Option Override
  | .string "exact" => some .exact
  | .table _ [("exact", v)] => if isEmpty v then some .exact else none
  | .table _ [("floor", v)] => (precision? v).map .floor
  | .table _ [("range", v)] => (text? v).map .range
  | _ => none

/-- The fields of a section: `names` gives their order. -/
def fields? (names : List String) : Value → Option (String → Option Value)
  | .table _ entries => some fun name => entries.lookup name
  | .array items => some fun name => items[names.idxOf name]?
  | .moment _ => some fun _ => none
  | _ => none

/-- The fields of a section of a document; a section that is missing has none. -/
def section? (document : Table) (name : String) (names : List String) :
    Option (String → Option Value) :=
  match document.lookup name with
  | some v => fields? names v
  | none => some fun _ => none

/-- The setting of a field, unset if the field is missing. -/
def setting? {α : Type} (read? : Value → Option α) : Option Value → Option (Option α)
  | some v => (read? v).map some
  | none => some none

def rules? : Table → Option Overrides
  | [] => some ∅
  | (name, v) :: rest =>
    match rule? v, rules? rest with
    | some rule, some rules => some (rules.insert name rule)
    | _, _ => none

def overrides? (document : Table) : Option Overrides :=
  match document.lookup "overrides" with
  | some (.table _ entries) => rules? entries
  | some _ => none
  | none => some ∅

def ofTable? (document : Table) : Option Config := do
  let catalog ← section? document "catalog" ["recipes_dir", "descriptor"]
  let extract ← section? document "extract" ["excluded_names", "skip_file_like_versions"]
  let resolve ← section? document "resolve" ["sentinels", "strip_prefixes"]
  pure
    { recipesDir := ← setting? text? (catalog "recipes_dir")
      descriptor := ← setting? text? (catalog "descriptor")
      excludedNames := ← setting? texts? (extract "excluded_names")
      skipFileNames := ← setting? flag? (extract "skip_file_like_versions")
      sentinels := ← setting? texts? (resolve "sentinels")
      strippedStarts := ← setting? texts? (resolve "strip_prefixes")
      overrides := ← overrides? document }

/-- The configuration that a text gives, unless it is malformed or a value is of the wrong kind. -/
def ofText? (text : String) : Option Config :=
  (Toml.read? text).bind ofTable?

end RecipePins.Config
