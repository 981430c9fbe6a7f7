import RecipePins.Text.Split
import RecipePins.Text.Digits

/-!
# Keys of free-form versions

Free-form identifiers such as `20201225`, `1.1.1w` or `3.0.0-beta` compare by their runs: digit
runs as numbers, letter runs without regard to case, every number above every word. All other
characters only separate runs.
-/
namespace RecipePins.Version

/-- One run of an identifier: lower-case letters, or digits without needless zeros. -/
inductive Run where
  | word (letters : List Char)
  | number (digits : List Char)
  deriving DecidableEq, Repr

namespace Run

/-- Words rank below numbers; words compare by character and numbers by value. -/
def order : Run → Run → Ordering
  | word a, word b => compare a b
  | word _, number _ => .lt
  | number _, word _ => .gt
  | number a, number b => Text.compareDigits a b

end Run

/-- The maximal digit runs and letter runs of a text, in order. -/
def runs : List Char → List Run
  | [] => []
  | c :: cs =>
    if c.isDigit then
      .number (Text.plainDigits (c :: cs.takeWhile Char.isDigit)) ::
        runs (cs.dropWhile Char.isDigit)
    else if c.isAlpha then
      .word ((c :: cs.takeWhile Char.isAlpha).map Char.toLower) ::
        runs (cs.dropWhile Char.isAlpha)
    else runs cs
termination_by s => s.length
decreasing_by
  · exact Nat.lt_succ_of_le (Text.length_dropWhile_le _ _)
  · exact Nat.lt_succ_of_le (Text.length_dropWhile_le _ _)
  · exact Nat.lt_succ_self _

structure RunKey where
  parts : List Run
  deriving DecidableEq, Repr

namespace RunKey

def ofString (s : String) : RunKey :=
  ⟨runs s.toList⟩

/-- Keys compare run by run; a key ranks below its own extensions. -/
def order (v w : RunKey) : Ordering :=
  List.compareLex Run.order v.parts w.parts

/-- An identifier without the first of `starts` that it begins with. -/
def stripFirst (starts : List String) (s : String) : List Char :=
  (starts.findSome? fun p => Text.stripStart? p.toList s.toList).getD s.toList

/-- The key of an identifier once a known beginning such as `cci.` is removed. -/
def stripped (starts : List String) (s : String) : RunKey :=
  ⟨runs (stripFirst starts s)⟩

end RunKey

end RecipePins.Version
