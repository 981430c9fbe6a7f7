import RecipePins.Version.Dotted
import RecipePins.Version.Runs

/-!
# Orders of versions

The comparisons of digit runs, of single runs, of whole keys and of dotted numbers are total: either of
two is above the other or they compare equal, and comparing is transitive.
-/
namespace RecipePins

instance : Std.TransCmp Text.compareDigits :=
  inferInstanceAs (Std.TransCmp (compareLex (compareOn fun a => (Text.dropZeros a).length)
    (compareOn Text.dropZeros)))

namespace Version

instance : Std.OrientedCmp Run.order where
  eq_swap {a b} := by
    cases a <;> cases b
    case word.word => exact Std.OrientedOrd.eq_swap
    case number.number => exact @Std.OrientedCmp.eq_swap _ Text.compareDigits _ _ _
    all_goals rfl

instance : Std.TransCmp Run.order where
  isLE_trans {a b c} hab hbc := by
    cases a <;> cases b <;> cases c
    case word.word.word => exact Std.TransOrd.isLE_trans hab hbc
    case number.number.number => exact @Std.TransCmp.isLE_trans _ Text.compareDigits _ _ _ _ hab hbc
    all_goals simp_all [Run.order]

instance : Std.TransCmp RunKey.order where
  eq_swap {_ _} := @Std.OrientedCmp.eq_swap _ (List.compareLex Run.order) _ _ _
  isLE_trans {_ _ _} := @Std.TransCmp.isLE_trans _ (List.compareLex Run.order) _ _ _ _

instance : Std.TransCmp DottedNumber.order where
  eq_swap {_ _} := @Std.OrientedCmp.eq_swap _ (List.compareLex Text.compareDigits) _ _ _
  isLE_trans {_ _ _} := @Std.TransCmp.isLE_trans _ (List.compareLex Text.compareDigits) _ _ _ _

instance : Std.TransCmp DottedNumber.rankOrder :=
  inferInstanceAs (Std.TransCmp (compareLex DottedNumber.order (compareOn DottedNumber.text)))

end Version

end RecipePins
