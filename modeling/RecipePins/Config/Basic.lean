import RecipePins.Pin.Exclusion
import RecipePins.Resolve.Override
import RecipePins.Resolve.Resolver

/-!
# Configurations

Every setting of a configuration may be unset. Configurations are layered: a setting comes from the
last layer that sets it, lists are never concatenated, and override rules are layered name by name.
Settings that no layer sets have built-in values.
-/
namespace RecipePins

structure Config where
  recipesDir : Option String := none
  descriptor : Option String := none
  excludedNames : Option (List String) := none
  skipFileNames : Option Bool := none
  sentinels : Option (List String) := none
  strippedStarts : Option (List String) := none
  overrides : Overrides := ∅

namespace Config

def standardDescriptor : String := "config.yml"

/-- A configuration with another one layered on top of it. -/
def merge (lower upper : Config) : Config where
  recipesDir := upper.recipesDir.or lower.recipesDir
  descriptor := upper.descriptor.or lower.descriptor
  excludedNames := upper.excludedNames.or lower.excludedNames
  skipFileNames := upper.skipFileNames.or lower.skipFileNames
  sentinels := upper.sentinels.or lower.sentinels
  strippedStarts := upper.strippedStarts.or lower.strippedStarts
  overrides := lower.overrides ∪ upper.overrides

def descriptorName (c : Config) : String :=
  c.descriptor.getD standardDescriptor

def exclusion (c : Config) : Exclusion :=
  ⟨c.excludedNames.getD Exclusion.standardNames, c.skipFileNames.getD true⟩

def policy (c : Config) : Policy :=
  ⟨c.sentinels.getD Policy.standardSentinels, c.strippedStarts.getD Policy.standardStarts⟩

/-- The override rules in force: the built-in ones with the configured ones on top, of which the
rule `exact` cancels the rule of its dependency. -/
def rules (c : Config) : Overrides :=
  (Overrides.builtIn ∪ c.overrides).filter fun _ rule => rule ≠ .exact

end Config

end RecipePins
