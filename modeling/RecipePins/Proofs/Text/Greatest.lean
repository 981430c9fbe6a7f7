import RecipePins.Text.Greatest

/-!
# Greatest members

A greatest member of a list is a member, and no member is greater. Where the comparison tells members
apart it is the only one, so it depends on which members the list has and not on their order or number.
-/
namespace RecipePins.Text

variable {α : Type} {cmp : α → α → Ordering}

theorem later_eq_or (cmp : α → α → Ordering) (a b : α) : later cmp a b = a ∨ later cmp a b = b := by
  rw [later]
  split
  · exact .inl rfl
  · exact .inr rfl

theorem foldl_later_mem (cmp : α → α → Ordering) (a : α) (as : List α) :
    as.foldl (later cmp) a ∈ a :: as := by
  induction as generalizing a with
  | nil => simp
  | cons b as ih =>
    have h := ih (later cmp a b)
    rw [List.foldl_cons]
    rcases later_eq_or cmp a b with he | he <;> rw [he] at h ⊢ <;>
      simp only [List.mem_cons] at h ⊢
    · exact h.imp id .inr
    · exact .inr h

theorem greatest?_mem {as : List α} {a : α} (h : greatest? cmp as = some a) : a ∈ as := by
  cases as with
  | nil => cases h
  | cons b as =>
    obtain rfl := Option.some.inj h
    exact foldl_later_mem cmp b as

theorem greatest?_eq_none {as : List α} : greatest? cmp as = none ↔ as = [] := by
  cases as <;> simp [greatest?]

section
variable [Std.TransCmp cmp]

theorem isLE_later (cmp : α → α → Ordering) [Std.TransCmp cmp] (a b : α) :
    (cmp a (later cmp a b)).isLE ∧ (cmp b (later cmp a b)).isLE := by
  rw [later]
  split
  · next h => exact ⟨Std.ReflCmp.isLE_rfl, by simp [Std.OrientedCmp.gt_iff_lt.1 h]⟩
  · next h => exact ⟨by simpa [Ordering.ne_gt_iff_isLE] using h, Std.ReflCmp.isLE_rfl⟩

theorem isLE_foldl_later (a : α) (as : List α) :
    ∀ b ∈ a :: as, (cmp b (as.foldl (later cmp) a)).isLE := by
  induction as generalizing a with
  | nil => simpa using Std.ReflCmp.isLE_rfl
  | cons b as ih =>
    obtain ⟨ha, hb⟩ := isLE_later cmp a b
    have hrest := ih (later cmp a b)
    have hlater := hrest _ List.mem_cons_self
    intro x hx
    rw [List.foldl_cons]
    rcases List.mem_cons.1 hx with rfl | hx
    · exact Std.TransCmp.isLE_trans ha hlater
    · rcases List.mem_cons.1 hx with rfl | hx
      · exact Std.TransCmp.isLE_trans hb hlater
      · exact hrest x (List.mem_cons_of_mem _ hx)

theorem isLE_of_greatest? {as : List α} {a b : α} (h : greatest? cmp as = some a) (hb : b ∈ as) :
    (cmp b a).isLE := by
  cases as with
  | nil => cases h
  | cons c as =>
    obtain rfl := Option.some.inj h
    exact isLE_foldl_later c as b hb

/-- Among members that the comparison tells apart, the greatest one is above every other. -/
theorem greatest?_eq_some_iff {as : List α}
    (hne : ∀ a ∈ as, ∀ b ∈ as, cmp a b = .eq → a = b) {a : α} :
    greatest? cmp as = some a ↔ a ∈ as ∧ ∀ b ∈ as, b ≠ a → cmp b a = .lt := by
  constructor
  · intro h
    have ha := greatest?_mem h
    refine ⟨ha, fun b hb hba => ?_⟩
    have hle := isLE_of_greatest? h hb
    cases hc : cmp b a with
    | lt => rfl
    | eq => exact absurd (hne b hb a ha hc) hba
    | gt => simp [hc] at hle
  · rintro ⟨ha, hlt⟩
    cases hg : greatest? cmp as with
    | none =>
      rw [greatest?_eq_none.1 hg] at ha
      cases ha
    | some b =>
      by_cases hba : b = a
      · rw [hba]
      · have hle := isLE_of_greatest? hg ha
        rw [Std.OrientedCmp.gt_of_lt (hlt b (greatest?_mem hg) hba)] at hle
        cases hle

end

end RecipePins.Text
