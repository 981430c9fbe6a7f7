import Mathlib.Data.List.Induction
import RecipePins.Config.Basic

/-!
# Layers of configurations

A setting of layered configurations comes from the last layer that sets it, and so does the override
rule of each name. The built-in rules and the rule `exact` come in only when the rules in force are read,
so it does not matter how the layers are grouped.
-/
namespace RecipePins

/-- The rule that holds for a name that no configuration mentions. -/
def Overrides.builtIn? (name : String) : Option Override :=
  if name = "cmake" then some (.floor .majorMinor)
  else if name = "openssl" then some (.range "[>=1.1 <4]")
  else none

theorem Overrides.builtIn_getElem? (name : String) : builtIn[name]? = builtIn? name := by
  simp only [builtIn, Std.ExtTreeMap.ofList_cons, Std.ExtTreeMap.insertMany_cons,
    Std.ExtTreeMap.insertMany_nil, Std.ExtTreeMap.getElem?_insert, Std.ExtTreeMap.getElem?_empty, builtIn?]
  grind

namespace Config

/-- Configurations one on top of the other, from the bottom up. -/
def layered (layers : List Config) : Config :=
  layers.foldl merge {}

/-- What the topmost layer that gives a value gives. -/
def lastGiven? {α : Type} (setting : Config → Option α) (layers : List Config) : Option α :=
  layers.reverse.findSome? setting

/-- The rule in force for a name, given the last one that is configured for it. -/
def inForce (name : String) : Option Override → Option Override
  | some .exact => none
  | some rule => some rule
  | none => Overrides.builtIn? name

/-- What some layers give together. -/
structure LastSetWins (layers : List Config) (c : Config) : Prop where
  recipesDir : c.recipesDir = lastGiven? recipesDir layers
  descriptor : c.descriptor = lastGiven? descriptor layers
  excludedNames : c.excludedNames = lastGiven? excludedNames layers
  skipFileNames : c.skipFileNames = lastGiven? skipFileNames layers
  sentinels : c.sentinels = lastGiven? sentinels layers
  strippedStarts : c.strippedStarts = lastGiven? strippedStarts layers
  overrides : ∀ name : String, c.overrides[name]? = lastGiven? (·.overrides[name]?) layers
  descriptorName : c.descriptorName = (lastGiven? Config.descriptor layers).getD standardDescriptor
  exclusion : c.exclusion =
    ⟨(lastGiven? Config.excludedNames layers).getD Exclusion.standardNames,
      (lastGiven? Config.skipFileNames layers).getD true⟩
  policy : c.policy =
    ⟨(lastGiven? Config.sentinels layers).getD Policy.standardSentinels,
      (lastGiven? Config.strippedStarts layers).getD Policy.standardStarts⟩
  rules : ∀ name : String, c.rules[name]? = inForce name (lastGiven? (·.overrides[name]?) layers)

/-- A setting that the upper of two configurations decides if it sets it, and the lower one otherwise. -/
structure Overlays {α : Type} (setting : Config → Option α) : Prop where
  unset : setting {} = none
  merge : ∀ lower upper, setting (lower.merge upper) = (setting upper).or (setting lower)

theorem overlays_rule (name : String) : Overlays (·.overrides[name]?) where
  unset := Std.ExtTreeMap.getElem?_empty
  merge _ _ := Std.ExtTreeMap.getElem?_union

theorem lastGiven?_append_singleton {α : Type} (setting : Config → Option α) (layers : List Config)
    (top : Config) :
    lastGiven? setting (layers ++ [top]) = (setting top).or (lastGiven? setting layers) := by
  rw [lastGiven?, List.reverse_concat, List.findSome?_cons]
  cases setting top <;> rfl

theorem layered_append_singleton (layers : List Config) (top : Config) :
    layered (layers ++ [top]) = (layered layers).merge top := by
  simp [layered]

theorem Overlays.layered_eq {α : Type} {setting : Config → Option α} (h : Overlays setting)
    (layers : List Config) : setting (layered layers) = lastGiven? setting layers := by
  induction layers using List.reverseRecOn with
  | nil => exact h.unset
  | append_singleton layers top ih =>
    rw [layered_append_singleton, lastGiven?_append_singleton, h.merge, ih]

theorem rules_getElem? (c : Config) (name : String) :
    c.rules[name]? = inForce name c.overrides[name]? := by
  rw [rules, Std.ExtTreeMap.getElem?_filter', Std.ExtTreeMap.getElem?_union, Overrides.builtIn_getElem?]
  cases h : c.overrides[name]? with
  | none =>
    simp only [Option.none_or, inForce, Overrides.builtIn?]
    split_ifs <;> rfl
  | some rule => cases rule <;> simp [inForce]

/-- Layers give what the last of them sets. -/
theorem layered_lastSetWins (layers : List Config) : LastSetWins layers (layered layers) := by
  have hn : (layered layers).descriptor = lastGiven? descriptor layers :=
    Overlays.layered_eq ⟨rfl, fun _ _ => rfl⟩ layers
  have he : (layered layers).excludedNames = lastGiven? excludedNames layers :=
    Overlays.layered_eq ⟨rfl, fun _ _ => rfl⟩ layers
  have hf : (layered layers).skipFileNames = lastGiven? skipFileNames layers :=
    Overlays.layered_eq ⟨rfl, fun _ _ => rfl⟩ layers
  have hs : (layered layers).sentinels = lastGiven? sentinels layers :=
    Overlays.layered_eq ⟨rfl, fun _ _ => rfl⟩ layers
  have hp : (layered layers).strippedStarts = lastGiven? strippedStarts layers :=
    Overlays.layered_eq ⟨rfl, fun _ _ => rfl⟩ layers
  exact {
    recipesDir := Overlays.layered_eq ⟨rfl, fun _ _ => rfl⟩ layers
    descriptor := hn
    excludedNames := he
    skipFileNames := hf
    sentinels := hs
    strippedStarts := hp
    overrides := fun name => (overlays_rule name).layered_eq layers
    descriptorName := by rw [descriptorName, hn]
    exclusion := by rw [exclusion, he, hf]
    policy := by rw [policy, hs, hp]
    rules := fun name => by rw [rules_getElem?, ← (overlays_rule name).layered_eq layers] }

attribute [ext] Config

theorem merge_assoc (a b c : Config) : (a.merge b).merge c = a.merge (b.merge c) := by
  ext1
  case overrides =>
    apply Std.ExtTreeMap.ext_getElem?
    intro name
    simp only [(overlays_rule name).merge, Option.or_assoc]
  all_goals exact (Option.or_assoc ..).symm

theorem merge_unset (c : Config) : c.merge {} = c := by
  ext1
  case overrides =>
    apply Std.ExtTreeMap.ext_getElem?
    simp [(overlays_rule _).merge]
  all_goals rfl

theorem unset_merge (c : Config) : merge {} c = c := by
  ext1
  case overrides =>
    apply Std.ExtTreeMap.ext_getElem?
    simp [(overlays_rule _).merge]
  all_goals exact Option.or_none

theorem layered_append (lower upper : List Config) :
    layered (lower ++ upper) = (layered lower).merge (layered upper) := by
  induction upper using List.reverseRecOn with
  | nil => rw [List.append_nil, layered, layered, List.foldl_nil, merge_unset]
  | append_singleton upper top ih =>
    rw [← List.append_assoc, layered_append_singleton, layered_append_singleton, ih, merge_assoc]

/-- A way to put layers together two by two. -/
inductive Grouping where
  | layer (c : Config)
  | stack (lower upper : Grouping)

namespace Grouping

def layers : Grouping → List Config
  | layer c => [c]
  | stack lower upper => lower.layers ++ upper.layers

def merged : Grouping → Config
  | layer c => c
  | stack lower upper => lower.merged.merge upper.merged

theorem merged_eq_layered (g : Grouping) : g.merged = Config.layered g.layers := by
  induction g with
  | layer c => exact (unset_merge c).symm
  | stack lower upper hl hu => rw [merged, layers, layered_append, hl, hu]

end Grouping

/-- Any number of layers give what the last of them sets, in whatever groups they are merged: merging is
associative, and a configuration that sets nothing is neutral on both sides. -/
theorem merged_by_last_set :
    (∀ layers, LastSetWins layers (layered layers)) ∧
    (∀ g : Grouping, g.merged = layered g.layers) ∧
    (∀ a b c : Config, (a.merge b).merge c = a.merge (b.merge c)) ∧
    ∀ c : Config, c.merge {} = c ∧ merge {} c = c :=
  ⟨layered_lastSetWins, Grouping.merged_eq_layered, merge_assoc,
    fun c => ⟨merge_unset c, unset_merge c⟩⟩

end Config

end RecipePins
