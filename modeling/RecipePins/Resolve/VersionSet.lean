import RecipePins.Version.Dotted

/-!
# Kinds of version sets

The versions that a catalog lists for a dependency are ranked by number if all of them are numeric
and by history otherwise. A declared version that is a sentinel opts out of ranking.
-/
namespace RecipePins

inductive Strategy where
  | numeric
  | historical
  deriving DecidableEq, Repr

namespace Strategy

def text : Strategy → String
  | numeric => "numeric"
  | historical => "historical"

end Strategy

/-- The versions of a catalog, sorted out by how they can be ranked. -/
inductive VersionSet where
  | empty
  | numeric (versions : List Version.DottedNumber)
  | freeForm (versions : List String)

namespace VersionSet

/-- The set of a list of versions: numeric if there are any and all of them are. -/
def ofList (versions : List String) : VersionSet :=
  if versions.isEmpty then .empty
  else match versions.mapM Version.DottedNumber.ofString? with
    | some numbers => .numeric numbers
    | none => .freeForm versions

/-- The set that a declaration resolves against; a sentinel resolves against none. -/
def forDeclared? (sentinels : List String) (declared : String) (versions : List String) :
    Option VersionSet :=
  if sentinels.contains declared then none else some (ofList versions)

def strategy? : VersionSet → Option Strategy
  | empty => none
  | numeric _ => some .numeric
  | freeForm _ => some .historical

end VersionSet

/-- How a catalog is ranked; an empty one counts as numeric. -/
def strategyFor (versions : List String) : Strategy :=
  (VersionSet.ofList versions).strategy?.getD .numeric

end RecipePins
