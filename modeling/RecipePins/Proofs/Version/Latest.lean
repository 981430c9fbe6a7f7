import RecipePins.Proofs.Text.ByteOrder
import RecipePins.Proofs.Text.Digits
import RecipePins.Proofs.Text.Greatest
import RecipePins.Proofs.Version.Order

/-!
# The latest of some dotted numbers

Dotted numbers are ordered by the numbers they are made of, the first place of difference deciding and a
version being below its own extensions. The latest one is greatest in that order and, of several that
spell the same numbers, greatest by the bytes of its text.
-/
namespace RecipePins.Version
open Text

namespace DottedNumber

/-- The numbers that the components spell, most significant first. -/
def values (v : DottedNumber) : List Nat :=
  v.components.map digitsValue

theorem isDigit_of_mem_components {v : DottedNumber} {ds : List Char} (h : ds ∈ v.components) :
    ∀ d ∈ ds, d.isDigit = true :=
  (isDigitRun_iff.1 (List.all_eq_true.1 v.dotted ds h)).2

/-- Versions are ordered as the lists of their numbers. -/
theorem order_eq_compare (v w : DottedNumber) : v.order w = compare v.values w.values := by
  rw [List.compare_eq_compareLex, values, values, order]
  symm
  apply compareLex_map
  intro a ha b hb
  exact (compareDigits_eq (isDigit_of_mem_components ha) (isDigit_of_mem_components hb)).symm

theorem order_eq_lt_iff {v w : DottedNumber} : v.order w = .lt ↔ v.values < w.values := by
  rw [order_eq_compare]
  exact compare_eq_lt_iff_lt fun _ _ => Nat.compare_eq_lt

theorem eq_of_text_eq {v w : DottedNumber} (h : v.text = w.text) : v = w := by
  cases v
  cases w
  cases h
  rfl

end DottedNumber

end RecipePins.Version
