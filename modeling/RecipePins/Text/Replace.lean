import RecipePins.Text.Split

/-!
# Replacing every occurrence of a text

Occurrences are found from left to right and do not overlap; inserted text is not searched again.
-/
namespace RecipePins.Text

/-- A text with every occurrence of the non-empty text `old` replaced by `new`. -/
def replaceAll (old new : List Char) : List Char → List Char
  | [] => []
  | c :: s =>
    if old.isPrefixOf (c :: s) then new ++ replaceAll old new (s.drop (old.length - 1))
    else c :: replaceAll old new s
termination_by s => s.length
decreasing_by
  · simp only [List.length_drop, List.length_cons]; omega
  · simp

end RecipePins.Text
