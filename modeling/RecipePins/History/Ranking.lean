import RecipePins.Text.Greatest
import RecipePins.Version.Runs
import RecipePins.History.Entry

/-!
# Ranking versions by history

Versions that are not all numeric are ranked by when they were added: the version whose line in the
descriptor changed last is the latest. Versions of one instant compare by their keys and at last by
their texts. Lines that do not read as entries and versions without an entry are reported
and take no part.
-/
namespace RecipePins.History

/-- A line without its comment and without blanks at its ends. -/
def cleanLine (line : List Char) : List Char :=
  Text.trim (line.takeWhile (· != '#'))

/-- Whether a clean line introduces a version: it ends in a colon and is neither the head of a
section nor a field of a version. -/
def introducesVersion (line : List Char) : Bool :=
  !Text.contains "versions".toList line && !Text.contains "folder".toList line &&
    line.getLast? == some ':'

def entryLines (annotate : List Char) : List (List Char) :=
  ((Text.fields '\n' annotate).map cleanLine).filter introducesVersion

def readAnnotate (annotate : String) : List (Except Problem Attribution) :=
  (entryLines annotate.toList).map Entry.ofLine

def attributions (results : List (Except Problem Attribution)) : List Attribution :=
  results.filterMap Except.toOption

def problems (results : List (Except Problem Attribution)) : List Problem :=
  results.filterMap fun
    | .error problem => some problem
    | .ok _ => none

def latestInstant? (known : List Attribution) (version : String) : Option Int :=
  ((known.filter (·.version == version)).map (·.timestamp.instant)).max?

/-- A version in the running, with what it is ranked by. -/
structure Candidate where
  instant : Int
  key : Version.RunKey
  version : String

namespace Candidate

/-- Orders candidates by instant, then by key, then by text. -/
def order (a b : Candidate) : Ordering :=
  (compare a.instant b.instant).then ((a.key.order b.key).then (compare a.version b.version))

def ofVersion? (known : List Attribution) (starts : List String) (version : String) :
    Option Candidate :=
  (latestInstant? known version).map fun instant =>
    ⟨instant, .stripped starts version, version⟩

end Candidate

structure Ranking where
  chosen : Option String
  problems : List Problem
  deriving DecidableEq, Repr

/-- Ranks listed versions by annotate output; `starts` are beginnings that the comparison of
versions passes over. -/
def rank (versions : List String) (annotate : String) (starts : List String) : Ranking :=
  let results := readAnnotate annotate
  let known := attributions results
  let candidates := versions.filterMap (Candidate.ofVersion? known starts)
  let missing := versions.filter fun v => (latestInstant? known v).isNone
  { chosen := (Text.greatest? Candidate.order candidates).map Candidate.version
    problems := problems results ++ missing.map Problem.unattributed }

end RecipePins.History
