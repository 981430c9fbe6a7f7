import RecipePins.Text.Split

/-!
# Tokens that are likely paths

The form of a pin token is also that of a short path, such as `"include/foo.h"`. An exclusion
policy filters the likely paths by name and by the look of the version; it is a heuristic.
-/
namespace RecipePins

/-- Which tokens are taken to be paths. -/
structure Exclusion where
  names : List String
  skipFileNames : Bool
  deriving DecidableEq, Repr

namespace Exclusion

/-- Names that are path segments. The tool `cmake` is not among them, because it is also a
dependency that recipes pin. -/
def standardNames : List String :=
  ["lib", "include", "bin", "src", "share", "etc", "doc", "res", ".", ".."]

/-- Whether a version looks like a file name: at least two dot-separated parts, the first of four
or more bytes and the last of one to three letters. -/
def isFileName (version : List Char) : Bool :=
  match Text.fields '.' version with
  | first :: second :: rest =>
    let last := (second :: rest).getLastD second
    Text.byteLength first ≥ 4 && !last.isEmpty && last.length ≤ 3 && last.all Char.isAlpha
  | _ => false

def excludes (policy : Exclusion) (name version : String) : Bool :=
  policy.names.contains name || (policy.skipFileNames && isFileName version.toList)

end Exclusion

end RecipePins
