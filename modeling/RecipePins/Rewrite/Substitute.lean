import RecipePins.Text.Replace
import RecipePins.Rewrite.Outcome

/-!
# Substituting new versions into a recipe

A changed pin is substituted by its text: every place where the exact quoted token stands receives
the new version. Each distinct token is substituted once, in the order of the pins.
-/
namespace RecipePins

structure Change where
  token : Token
  version : String
  deriving DecidableEq, Repr

namespace Change

/-- A text in which every occurrence of the token has the new version. -/
def apply (c : Change) (text : List Char) : List Char :=
  Text.replaceAll c.token.chars (c.token.withVersion c.version).chars text

def ofOutcome? (o : PinOutcome) : Option Change :=
  o.newVersion?.map fun version => ⟨o.pin.token, version⟩

/-- The changes whose token is not written like one in `seen` or like an earlier one. -/
def distinct (seen : List (List Char)) : List Change → List Change
  | [] => []
  | c :: rest =>
    if seen.contains c.token.chars then distinct seen rest
    else c :: distinct (c.token.chars :: seen) rest

end Change

/-- A recipe after the changes that some outcomes ask for. -/
def applyOutcomes (outcomes : List PinOutcome) (text : String) : String :=
  String.ofList ((Change.distinct [] (outcomes.filterMap Change.ofOutcome?)).foldl
    (fun text c => c.apply text) text.toList)

end RecipePins
