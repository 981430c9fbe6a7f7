import RecipePins.History.Entry
import RecipePins.Resolve.Override

/-!
# Events of a run

What a run does is recorded as a list of events in order. A log is made from it, and the lookups
among the events tell which questions were put to the sources.
-/
namespace RecipePins

inductive Event where
  | lookedUpVersions (name : String)
  | lookedUpHistory (name : String)
  | processing (name : String)
  | rankedByNumber (name : String) (count : Nat)
  | rankedByHistory (name : String) (count excluded : Nat)
  | skipped (name : String) (problem : History.Problem)
  | overrideGave (name : String) (rule : Override) (chosen : String)
  | configIgnored (path reason : String)
  | usingCatalog (directory : String)
  | running (command : String)
  | updating (name declared chosen manner : String)
  | leftUnchanged (path : String)
  deriving DecidableEq, Repr

end RecipePins
