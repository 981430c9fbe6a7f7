import RecipePins.Pin.Token
import RecipePins.Resolve.Resolver

/-!
# Outcomes of pins

Every pin of a recipe has an outcome: it changes, is up to date, opts out, or fails. A report keeps
the outcomes in text order.
-/
namespace RecipePins

inductive Outcome where
  | updated (old new : String)
  | upToDate
  | sentinel
  | failed (error : Unresolved)
  deriving DecidableEq, Repr

namespace Outcome

def ofResolution (declared : String) : Except Unresolved (Option Resolved) → Outcome
  | .error e => failed e
  | .ok none => sentinel
  | .ok (some r) => if r.chosen = declared then upToDate else updated declared r.chosen

end Outcome

structure PinOutcome where
  pin : Pin
  line : Nat
  resolved : Option Resolved
  outcome : Outcome
  deriving DecidableEq, Repr

namespace PinOutcome

def newVersion? (o : PinOutcome) : Option String :=
  match o.outcome with
  | .updated _ new => some new
  | _ => none

def error? (o : PinOutcome) : Option Unresolved :=
  match o.outcome with
  | .failed e => some e
  | _ => none

end PinOutcome

structure Report where
  outcomes : List PinOutcome
  notes : List HistoryNote
  deriving DecidableEq, Repr

namespace Report

def updated (report : Report) : List PinOutcome :=
  report.outcomes.filter fun o => o.newVersion?.isSome

/-- The first failure of every name that is not among `seen`. -/
def firstFailures (seen : List String) : List PinOutcome → List (PinOutcome × Unresolved)
  | [] => []
  | o :: rest =>
    match o.error? with
    | some e =>
      if seen.contains o.pin.token.name then firstFailures seen rest
      else (o, e) :: firstFailures (o.pin.token.name :: seen) rest
    | none => firstFailures seen rest

/-- The first failure of every dependency that failed, in text order. -/
def failures (report : Report) : List (PinOutcome × Unresolved) :=
  firstFailures [] report.outcomes

end Report

end RecipePins
