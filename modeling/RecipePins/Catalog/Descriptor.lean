import RecipePins.Resolve.Unresolved
import RecipePins.Yaml.Document

/-!
# Version descriptors

A descriptor is a document whose mapping `versions` has an entry for every known version of a
dependency. Keys that are integers are taken as they print. A key that reads as a floating number is
refused, because its spelling is lost: `1.10` would become `1.1`.
-/
namespace RecipePins.Catalog

/-- The version that a key of the mapping names, or what is wrong with the key. -/
def versionOfKey : Yaml.Value → Except String String
  | .string s => .ok s
  | .number (.int n) => .ok (toString n)
  | .number n =>
    .error s!"version key `{n.text}` must be quoted; unquoted it reads as a float"
  | v => .error s!"unsupported version key: {v.describe}"

def versionsOf (document : Yaml.Value) : Except String (List String) :=
  match (document.get? "versions").bind Yaml.Value.entries? with
  | some entries => entries.mapM fun e => versionOfKey e.1
  | none => .error "missing `versions` mapping"

/-- The versions that the descriptor of a dependency lists, in file order. -/
def readVersions (name content : String) : Except Unresolved (List String) :=
  match Yaml.read content with
  | .error fault => .error (.malformed name fault.message)
  | .ok document =>
    match versionsOf document with
    | .ok versions => .ok versions
    | .error message => .error (.malformed name message)

end RecipePins.Catalog
