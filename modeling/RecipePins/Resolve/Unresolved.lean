import RecipePins.Report.Diagnostic

/-!
# Failures to resolve a dependency

Resolution of one dependency can fail without stopping a run: the failure is reported and the pins
of that dependency keep their text.
-/
namespace RecipePins

/-- Why a dependency has no version to be pinned at. -/
inductive Unresolved where
  | noDescriptor (package path : String)
  | malformed (package message : String)
  | unresolvable (package reason : String)
  | noHistory (package message : String)
  deriving DecidableEq, Repr

namespace Unresolved

def package : Unresolved → String
  | noDescriptor p _ | malformed p _ | unresolvable p _ | noHistory p _ => p

/-- The path that was expected, or the cause. -/
def detail : Unresolved → String
  | noDescriptor _ d | malformed _ d | unresolvable _ d | noHistory _ d => d

def message : Unresolved → String
  | noDescriptor p _ => s!"no version descriptor for `{p}`"
  | malformed p m => s!"malformed version descriptor for `{p}`: {m}"
  | unresolvable p r => s!"could not resolve a version for `{p}`: {r}"
  | noHistory p m => s!"history unavailable for `{p}`: {m}"

def emptyCatalog (package : String) : Unresolved :=
  unresolvable package "the catalog lists no versions"

def nothingAttributed (package : String) : Unresolved :=
  unresolvable package "no catalog entry has usable history"

def diagnostic : Unresolved → Diagnostic
  | noDescriptor p path =>
    { severity := .error
      message := s!"`{p}` is referenced but has no recipe"
      context := ["expected descriptor at " ++ path]
      suggestions := ["Check the dependency name for typos",
        "Pass `--recipes-dir` if the catalog lives elsewhere"] }
  | malformed p m =>
    { severity := .error
      message := s!"could not read versions of `{p}`"
      context := [m]
      suggestions := ["Ensure the descriptor has a top-level `versions` mapping"] }
  | unresolvable p r =>
    { severity := .warning
      message := s!"left `{p}` unchanged"
      context := [r] }
  | noHistory p m =>
    { severity := .error
      message := s!"could not read history for `{p}`"
      context := [m]
      suggestions := ["Run from inside a git checkout of the recipes repository"] }

end Unresolved

end RecipePins
