/-!
# The greatest member of a list

Ranking picks a greatest member under a comparison. Where several are greatest the last one is
taken; the comparisons in use tell apart any two different candidates, so the choice does not hang
on the order of the list.
-/
namespace RecipePins.Text

/-- Keeps the first of two members only if it is strictly greater. -/
def later {α : Type} (cmp : α → α → Ordering) (a b : α) : α :=
  if cmp a b = .gt then a else b

/-- The last greatest member of a list, if the list has a member. -/
def greatest? {α : Type} (cmp : α → α → Ordering) : List α → Option α
  | [] => none
  | a :: as => some (as.foldl (later cmp) a)

end RecipePins.Text
