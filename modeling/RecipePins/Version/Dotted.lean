import RecipePins.Text.Split
import RecipePins.Text.Digits
import RecipePins.Text.Greatest

/-!
# Dotted numbers

A version such as `1.10.0` is numeric if every dot-separated component is a digit run. Components
compare as unbounded numbers and a version ranks below its own extensions, so `1.2 < 1.2.0`.
Different spellings of one version (`1.2`, `1.02`) are equal in this order; ranking settles them by
their text.
-/
namespace RecipePins.Version

/-- Whether a text is digit runs separated by single dots. -/
def isDotted (s : List Char) : Bool :=
  (Text.fields '.' s).all Text.isDigitRun

/-- A version all of whose components are numbers, as it was written. -/
structure DottedNumber where
  text : String
  dotted : isDotted text.toList = true

namespace DottedNumber

def ofString? (s : String) : Option DottedNumber :=
  if h : isDotted s.toList = true then some ⟨s, h⟩ else none

/-- The components as digit runs, most significant first. -/
def components (v : DottedNumber) : List (List Char) :=
  Text.fields '.' v.text.toList

/-- Orders versions component by component; a missing component ranks lowest. -/
def order (v w : DottedNumber) : Ordering :=
  List.compareLex Text.compareDigits v.components w.components

/-- Orders versions by number and then by spelling, which tells any two texts apart. -/
def rankOrder (v w : DottedNumber) : Ordering :=
  (v.order w).then (compare v.text w.text)

/-- The numerically greatest version; of equal versions the one with the greatest text. -/
def latest? (versions : List DottedNumber) : Option DottedNumber :=
  Text.greatest? rankOrder versions

end DottedNumber

end RecipePins.Version
