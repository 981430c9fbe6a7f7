import Mathlib.Data.List.Basic
import RecipePins.Text.Split

/-!
# The fields of a text

The fields of a text lack the separator that they stand between. A text is its last field, or a first field
with the separator and a text with one field less behind it, and statements on fields are proved along that.
-/
namespace RecipePins.Text

theorem fields_eq_singleton {sep : Char} {s : List Char} (h : sep ∉ s) : fields sep s = [s] := by
  induction s with
  | nil => rfl
  | cons c s ih =>
    have hc : c ≠ sep := fun he => h (he ▸ List.mem_cons_self)
    rw [fields, if_neg hc, ih fun hm => h (List.mem_cons_of_mem c hm), consField]

theorem fields_append_cons {sep : Char} {s : List Char} (h : sep ∉ s) (rest : List Char) :
    fields sep (s ++ sep :: rest) = s :: fields sep rest := by
  induction s with
  | nil => rw [List.nil_append, fields, if_pos rfl]
  | cons c s ih =>
    have hc : c ≠ sep := fun he => h (he ▸ List.mem_cons_self)
    rw [List.cons_append, fields, if_neg hc, ih fun hm => h (List.mem_cons_of_mem c hm), consField]

theorem not_mem_of_mem_fields {sep : Char} {s f : List Char} (h : f ∈ fields sep s) : sep ∉ f := by
  induction s generalizing f with
  | nil =>
    rw [List.mem_singleton.1 h]
    exact List.not_mem_nil
  | cons c s ih =>
    rw [fields] at h
    split at h
    · rcases List.mem_cons.1 h with rfl | h
      · exact List.not_mem_nil
      · exact ih h
    · next hc =>
      cases hs : fields sep s with
      | nil => exact absurd hs (fields_ne_nil sep s)
      | cons g gs =>
        rw [hs, consField] at h
        rcases List.mem_cons.1 h with rfl | h
        · simpa using ⟨Ne.symm hc, ih (hs ▸ List.mem_cons_self)⟩
        · exact ih (hs ▸ List.mem_cons_of_mem g h)

/-- Induction on the fields of a text. -/
theorem fields_induction (sep : Char) {motive : List Char → Prop} (s : List Char)
    (last : ∀ f, sep ∉ f → motive f)
    (cut : ∀ f rest, sep ∉ f → motive rest → motive (f ++ sep :: rest)) : motive s := by
  induction hn : s.length using Nat.strongRecOn generalizing s with
  | ind n ih =>
    by_cases hs : sep ∈ s
    · obtain ⟨f, rest, rfl, hf⟩ := List.eq_append_cons_of_mem hs
      exact cut f rest hf (ih rest.length (by simp at hn; omega) rest rfl)
    · exact last s hs

end RecipePins.Text
