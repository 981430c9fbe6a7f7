/-!
# Comparing lists member by member

A list compares with another at the first place where they differ and is below its own extensions. What
is known of comparing two members carries over to lists of them.
-/
namespace RecipePins.Text

variable {α β : Type}

/-- Images compare as the lists do if each two members compare so. -/
theorem compareLex_map {cmp : α → α → Ordering} {cmp' : β → β → Ordering} {f : α → β} {as bs : List α}
    (h : ∀ a ∈ as, ∀ b ∈ bs, cmp' (f a) (f b) = cmp a b) :
    List.compareLex cmp' (as.map f) (bs.map f) = List.compareLex cmp as bs := by
  induction as generalizing bs with
  | nil => cases bs <;> rfl
  | cons a as ih =>
    cases bs with
    | nil => rfl
    | cons b bs =>
      simp only [List.mem_cons, forall_eq_or_imp] at h
      rw [List.map_cons, List.map_cons, List.compareLex_cons_cons, List.compareLex_cons_cons, h.1.1,
        ih fun a ha b hb => (h.2 a ha).2 b hb]

/-- Lists compare equal only if they are equal, if that holds for each two members. -/
theorem compareLex_eq_eq_iff {cmp : α → α → Ordering} {as bs : List α}
    (h : ∀ a ∈ as, ∀ b ∈ bs, cmp a b = .eq ↔ a = b) : List.compareLex cmp as bs = .eq ↔ as = bs := by
  induction as generalizing bs with
  | nil => cases bs <;> simp [List.compareLex]
  | cons a as ih =>
    cases bs with
    | nil => simp [List.compareLex]
    | cons b bs =>
      simp only [List.mem_cons, forall_eq_or_imp] at h
      rw [List.compareLex_cons_cons, Ordering.then_eq_eq, h.1.1, ih fun a ha b hb => (h.2 a ha).2 b hb,
        List.cons.injEq]

theorem compare_eq_lt_iff_lt [Ord α] [LT α] [Std.LawfulEqOrd α]
    (h : ∀ a b : α, compare a b = .lt ↔ a < b) {as bs : List α} : compare as bs = .lt ↔ as < bs := by
  induction as generalizing bs with
  | nil => cases bs <;> simp
  | cons a as ih =>
    cases bs with
    | nil => simp
    | cons b bs =>
      rw [List.compare_cons_cons, Ordering.then_eq_lt, ih, h, Std.LawfulEqOrd.compare_eq_iff_eq,
        List.cons_lt_cons_iff]

theorem compare_chars_eq_lt_iff {s t : List Char} : compare s t = .lt ↔ s < t :=
  compare_eq_lt_iff_lt fun _ _ => compareOfLessAndEq_eq_lt

/-- Two pairs in the same order compare alike. -/
theorem compare_eq_compare [Ord α] [Ord β] [Std.LawfulEqOrd α] [Std.OrientedOrd α] [Std.OrientedOrd β]
    {a b : α} {x y : β} (hlt : compare a b = .lt → compare x y = .lt)
    (hgt : compare b a = .lt → compare y x = .lt) (heq : a = b → x = y) : compare x y = compare a b := by
  cases h : compare a b with
  | lt => exact hlt h
  | eq => rw [heq (Std.LawfulEqOrd.compare_eq_iff_eq.1 h), Std.ReflOrd.compare_self]
  | gt => exact Std.OrientedCmp.gt_of_lt (hgt (Std.OrientedCmp.gt_iff_lt.1 h))

end RecipePins.Text
