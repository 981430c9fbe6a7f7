import RecipePins.Pin.Scan
import RecipePins.Rewrite.Substitute

/-!
# Rewriting a recipe

A rewriter scans a recipe for pins, resolves them one by one with override rules taken into account,
and substitutes the versions that changed.
-/
namespace RecipePins

structure Rewriter where
  exclusion : Exclusion
  overrides : Overrides
  resolver : Resolver

structure Rewrite where
  text : String
  report : Report
  deriving DecidableEq, Repr

namespace Rewriter

/-- The version that a rule gives, provided that the catalog knows the dependency. -/
def overrideBy (source : Source) (rule : Override) (name declared : String) (r : Resolver) :
    Except Unresolved (Option Resolved) × Resolver :=
  match r.catalog source name with
  | (.error e, r) => (.error e, r)
  | (.ok versions, r) =>
    match rule.apply name declared with
    | .error e => (.error e, r)
    | .ok chosen =>
      (.ok (some ⟨name, chosen, strategyFor versions, true⟩),
        r.record (.overrideGave name rule chosen))

/-- The resolution of one declaration; nothing for a sentinel, whatever the rules are. -/
def resolveWith (source : Source) (overrides : Overrides) (name declared : String) (r : Resolver) :
    Except Unresolved (Option Resolved) × Resolver :=
  if r.policy.isSentinel declared then (.ok none, r)
  else match overrides[name]? with
    | some rule => overrideBy source rule name declared r
    | none => r.resolve source name declared

def planPin (source : Source) (overrides : Overrides) (text : String) (pin : Pin) (r : Resolver) :
    PinOutcome × Resolver :=
  let r := r.record (.processing pin.token.name)
  let (resolution, r) := resolveWith source overrides pin.token.name pin.token.version r
  let resolved := resolution.toOption.join
  (⟨pin, pin.line text, resolved, .ofResolution pin.token.version resolution⟩, r)

def planPins (source : Source) (overrides : Overrides) (text : String) :
    List Pin → Resolver → List PinOutcome × Resolver
  | [], r => ([], r)
  | pin :: pins, r =>
    let (outcome, r) := planPin source overrides text pin r
    let (outcomes, r) := planPins source overrides text pins r
    (outcome :: outcomes, r)

def resolve (source : Source) (name declared : String) (w : Rewriter) :
    Except Unresolved (Option Resolved) × Rewriter :=
  let (resolution, r) := resolveWith source w.overrides name declared w.resolver
  (resolution, { w with resolver := r })

def plan (source : Source) (text : String) (w : Rewriter) : List PinOutcome × Rewriter :=
  let (outcomes, r) := planPins source w.overrides text (scan w.exclusion text) w.resolver
  (outcomes, { w with resolver := r })

/-- The recipe with its pins brought up to date, and the report of it. -/
def rewrite (source : Source) (text : String) (w : Rewriter) : Rewrite × Rewriter :=
  let (outcomes, w) := w.plan source text
  let (notes, r) := w.resolver.takeNotes
  (⟨applyOutcomes outcomes text, ⟨outcomes, notes⟩⟩, { w with resolver := r })

end Rewriter

end RecipePins
