import RecipePins.Proofs.Text.Search
import RecipePins.Version.Runs

/-!
# Beginnings that are passed over

Of the beginnings that ranking is told to pass over, the first one that an identifier has is taken off it,
and the others are not looked at. An identifier with none of them stays whole.
-/
namespace RecipePins.Version

/-- What is left of an identifier without the first of some beginnings that it has. -/
inductive LeftOver (starts : List String) (s : String) : String → Prop where
  | first {before after : List String} {start rest : String} (hstarts : starts = before ++ start :: after)
      (hbefore : ∀ p ∈ before, ¬ p.toList <+: s.toList) (hs : s = start ++ rest) : LeftOver starts s rest
  | whole (h : ∀ p ∈ starts, ¬ p.toList <+: s.toList) : LeftOver starts s s

namespace RunKey

theorem stripFirst_eq_toList {starts : List String} {s : String}
    (h : ∀ p ∈ starts, ¬ p.toList <+: s.toList) : stripFirst starts s = s.toList := by
  have hnone : starts.findSome? (fun p => Text.stripStart? p.toList s.toList) = none := by
    rw [List.findSome?_eq_none_iff]
    exact fun p hp => Text.stripStart?_eq_none (h p hp)
  rw [stripFirst, hnone, Option.getD_none]

theorem stripFirst_append {before after : List String} {start rest : String}
    (h : ∀ p ∈ before, ¬ p.toList <+: (start ++ rest).toList) :
    stripFirst (before ++ start :: after) (start ++ rest) = rest.toList := by
  have hnone : before.findSome? (fun p => Text.stripStart? p.toList (start ++ rest).toList) = none := by
    rw [List.findSome?_eq_none_iff]
    exact fun p hp => Text.stripStart?_eq_none (h p hp)
  have hfirst : Text.stripStart? start.toList (start ++ rest).toList = some rest.toList := by
    rw [String.toList_append, Text.stripStart?_append]
  rw [stripFirst, List.findSome?_append, hnone, Option.none_or, List.findSome?_cons, hfirst, Option.getD_some]

end RunKey

theorem LeftOver.stripFirst_eq {starts : List String} {s rest : String} (h : LeftOver starts s rest) :
    RunKey.stripFirst starts s = rest.toList := by
  cases h with
  | first hstarts hbefore hs =>
    subst hstarts hs
    exact RunKey.stripFirst_append hbefore
  | whole h => exact RunKey.stripFirst_eq_toList h

theorem exists_leftOver (starts : List String) (s : String) : ∃ rest, LeftOver starts s rest := by
  induction starts with
  | nil => exact ⟨s, .whole (List.forall_mem_nil _)⟩
  | cons p starts ih =>
    by_cases hp : p.toList <+: s.toList
    · obtain ⟨rest, hrest⟩ := hp
      have hs : s = p ++ String.ofList rest := String.ext (by rw [String.toList_append, String.toList_ofList, hrest])
      exact ⟨_, .first (List.nil_append _).symm (List.forall_mem_nil _) hs⟩
    · obtain ⟨rest, h⟩ := ih
      cases h with
      | first hstarts hbefore hs =>
        exact ⟨rest, .first (congrArg (p :: ·) hstarts) (List.forall_mem_cons.2 ⟨hp, hbefore⟩) hs⟩
      | whole h => exact ⟨s, .whole (List.forall_mem_cons.2 ⟨hp, h⟩)⟩

/-- An identifier goes by the key of what is left of it. -/
theorem LeftOver.stripped_eq {starts : List String} {s rest : String} (h : LeftOver starts s rest) :
    RunKey.stripped starts s = .ofString rest := by
  rw [RunKey.stripped, h.stripFirst_eq, RunKey.ofString]

end RecipePins.Version
