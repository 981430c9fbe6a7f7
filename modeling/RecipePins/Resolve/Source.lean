import Std.Data.ExtTreeMap
import RecipePins.Disk.Path
import RecipePins.Resolve.Unresolved

/-!
# Sources of versions and history

A source answers two questions about a dependency: which versions its catalog lists, and what the
annotated descriptor says. A source held in memory keeps the answers by name.
-/
namespace RecipePins

structure Source where
  versions : String → Except Unresolved (List String)
  annotate : String → Except Unresolved String

structure KeptAnswers where
  versions : Std.ExtTreeMap String (Except Unresolved (List String)) := ∅
  history : Std.ExtTreeMap String (Except Unresolved String) := ∅

namespace KeptAnswers

/-- The source that gives the answers kept, and a failure for a name without one. -/
def toSource (m : KeptAnswers) : Source where
  versions name := m.versions[name]?.getD (.error (.noDescriptor name (Disk.join "<memory>" name)))
  annotate name := m.history[name]?.getD (.error (.noHistory name "no history registered"))

end KeptAnswers

end RecipePins
