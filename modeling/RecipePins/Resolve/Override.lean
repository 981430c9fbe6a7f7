import Std.Data.ExtTreeMap
import RecipePins.Version.Semantic
import RecipePins.Resolve.Unresolved

/-!
# Override rules

Some dependencies are pinned at a range instead of the latest version: a tool only needs a minimum,
and a library may be accepted across several major releases.
-/
namespace RecipePins

/-- How many components of the declared version a floor keeps. -/
inductive FloorDepth where
  | major
  | majorMinor
  deriving DecidableEq, Repr

/-- How the version of a dependency is chosen instead of by ranking. The rule `exact` stands for
ranking itself and serves to cancel another rule. -/
inductive Override where
  | floor (precision : FloorDepth)
  | range (expr : String)
  | exact
  deriving DecidableEq, Repr

namespace Override

def text : Override → String
  | floor .major => "floor (major)"
  | floor .majorMinor => "floor (major.minor)"
  | range expr => "range " ++ expr
  | exact => "exact"

/-- The open-ended range that starts at a version. -/
def floorRange (precision : FloorDepth) (v : Version.SemanticVersion) : String :=
  match precision with
  | .major => s!"[>={v.major}]"
  | .majorMinor => s!"[>={v.major}.{v.minor}]"

def apply (rule : Override) (package declared : String) : Except Unresolved String :=
  match rule with
  | floor precision =>
    match Version.SemanticVersion.lenient? declared with
    | some v => .ok (floorRange precision v)
    | none =>
      .error (.unresolvable package s!"cannot derive a version floor from `{declared}`")
  | range expr => .ok expr
  | exact => .error (.unresolvable package "exact pinning has no override expression")

end Override

abbrev Overrides := Std.ExtTreeMap String Override

namespace Overrides

/-- The rules that hold unless a configuration changes them. -/
def builtIn : Overrides :=
  Std.ExtTreeMap.ofList
    [("cmake", Override.floor .majorMinor), ("openssl", Override.range "[>=1.1 <4]")]

end Overrides

end RecipePins
