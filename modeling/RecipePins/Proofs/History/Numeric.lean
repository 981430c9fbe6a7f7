import RecipePins.Proofs.History.Choice
import RecipePins.Proofs.Version.Agreement
import RecipePins.Resolve.Resolver

/-!
# Dotted numbers in a history

Dotted numbers of one instant rank in a history as they rank by number, if no beginning is taken off them.
A beginning such as `1.` that ranking is told to pass over can turn the rank of two of them round.
-/
namespace RecipePins.History
open Version

/-- The beginnings that ranking passes over by default are none of a dotted number. -/
theorem stripFirst_standardStarts (v : DottedNumber) :
    RunKey.stripFirst Policy.standardStarts v.text = v.text.toList := by
  apply RunKey.stripFirst_eq_toList
  intro p hp hpre
  obtain ⟨d, rest, hs, hd⟩ := exists_digit_of_isDotted v.dotted
  rw [List.mem_singleton.1 hp, hs] at hpre
  obtain ⟨rfl, -⟩ := List.cons_prefix_cons.1 hpre
  cases hd

/-- Versions of one instant rank by their keys and then by their texts. -/
theorem ranksBelow_iff {annotate : String} {starts : List String} {v w : String} {i : Int}
    (hv : LatestAt annotate v i) (hw : LatestAt annotate w i) :
    RanksBelow annotate starts v w ↔
      (RunKey.stripped starts v).order (.stripped starts w) = .lt ∨
        (RunKey.stripped starts v).order (.stripped starts w) = .eq ∧ Text.bytes v < Text.bytes w := by
  rw [ranksBelow_iff_stripped]
  constructor
  · rintro ⟨j, k, hj, hk, h⟩
    rw [← hv.unique hj, ← hw.unique hk] at h
    exact (h.resolve_left (Int.lt_irrefl i)).2
  · exact fun h => ⟨i, i, hv, hw, .inr ⟨rfl, h⟩⟩

theorem stripped_eq_ofString {starts : List String} {s : String}
    (h : RunKey.stripFirst starts s = s.toList) : RunKey.stripped starts s = .ofString s := by
  rw [RunKey.stripped, h, RunKey.ofString]

section
variable {annotate : String} {starts : List String} {v w : DottedNumber} {i : Int}

theorem ranksBelow_iff_rankOrder (hv : RunKey.stripFirst starts v.text = v.text.toList)
    (hw : RunKey.stripFirst starts w.text = w.text.toList) (hvi : LatestAt annotate v.text i)
    (hwi : LatestAt annotate w.text i) :
    RanksBelow annotate starts v.text w.text ↔ v.rankOrder w = .lt := by
  rw [ranksBelow_iff hvi hwi, stripped_eq_ofString hv, stripped_eq_ofString hw, DottedNumber.key_order,
    DottedNumber.rankOrder, Ordering.then_eq_lt, Text.compare_eq_lt_iff_bytes]

/-- Of two dotted numbers of one instant the lower one is not chosen. -/
theorem rank_chosen_ne (hv : RunKey.stripFirst starts v.text = v.text.toList)
    (hw : RunKey.stripFirst starts w.text = w.text.toList) (hvi : LatestAt annotate v.text i)
    (hwi : LatestAt annotate w.text i) {versions : List String} (hm : w.text ∈ versions)
    (h : v.rankOrder w = .lt) : (rank versions annotate starts).chosen ≠ some v.text := by
  intro hc
  have hne : w.text ≠ v.text := by
    intro he
    rw [DottedNumber.eq_of_text_eq he] at h
    exact absurd h (by simp [Std.ReflCmp.compare_self])
  have hbelow := (rank_chosen_eq_some_iff.1 hc).greatest w.text hm ⟨i, hwi.1⟩ hne
  have hgt := (ranksBelow_iff_rankOrder hw hv hwi hvi).1 hbelow
  rw [Std.OrientedCmp.gt_of_lt h] at hgt
  cases hgt

end

/-- Dotted numbers are ordered alike by their keys and by number, and their keys are equal exactly if they
are equal by number. Those of one instant therefore rank in a history as they do by number, and the lower
one of two is not chosen where the other is listed, unless ranking takes a beginning off one of them; those
that it passes over by default never are one. -/
theorem dotted_numbers_keep_rank (v w : DottedNumber) :
    (RunKey.ofString v.text).order (.ofString w.text) = v.order w ∧
    (RunKey.ofString v.text = .ofString w.text ↔ v.order w = .eq) ∧
    RunKey.stripFirst Policy.standardStarts v.text = v.text.toList ∧
    ∀ (annotate : String) (starts : List String) (i : Int),
      RunKey.stripFirst starts v.text = v.text.toList → RunKey.stripFirst starts w.text = w.text.toList →
      LatestAt annotate v.text i → LatestAt annotate w.text i →
      (RanksBelow annotate starts v.text w.text ↔ v.rankOrder w = .lt) ∧
      ∀ versions, w.text ∈ versions → v.rankOrder w = .lt →
        (rank versions annotate starts).chosen ≠ some v.text := by
  refine ⟨DottedNumber.key_order v w, ?_, stripFirst_standardStarts v, ?_⟩
  · rw [RunKey.ofString_eq_iff, DottedNumber.key_order]
  · intro annotate starts i hv hw hvi hwi
    exact ⟨ranksBelow_iff_rankOrder hv hw hvi hwi,
      fun versions hm h => rank_chosen_ne hv hw hvi hwi hm h⟩

def oneInstant : String :=
  ofLines ["815109b9a45 (<jane@example.com>  2022-11-08 20:49:32 +0100 2)   \"1.5\":".toList,
    "815109b9a45 (<jane@example.com>  2022-11-08 20:49:32 +0100 4)   \"2.3\":".toList]

theorem attributed_oneInstant : attributed oneInstant =
    [⟨"1.5", ⟨2022, 11, 8, 20, 49, 32, 60⟩⟩, ⟨"2.3", ⟨2022, 11, 8, 20, 49, 32, 60⟩⟩] := by
  decide +kernel

theorem latestAt_oneInstant :
    LatestAt oneInstant "1.5" 3335873944 ∧ LatestAt oneInstant "2.3" 3335873944 := by
  rw [← latestInstant?_eq_some_iff, ← latestInstant?_eq_some_iff, attributed_oneInstant]
  decide +kernel

theorem lower_number_not_chosen_beside_beta :
    RanksBelow oneInstant ["cci."] "1.5" "2.3" ∧
      (rank ["1.5", "2.3", "beta"] oneInstant ["cci."]).chosen ≠ some "1.5" := by
  have hlower : (DottedNumber.mk "1.5" (by decide)).rankOrder ⟨"2.3", by decide⟩ = .lt := by decide +kernel
  obtain ⟨hlow, hhigh⟩ := latestAt_oneInstant
  obtain ⟨-, -, -, hrank⟩ := dotted_numbers_keep_rank ⟨"1.5", by decide⟩ ⟨"2.3", by decide⟩
  obtain ⟨hbelow, hchosen⟩ :=
    hrank oneInstant ["cci."] _ (by decide +kernel) (by decide +kernel) hlow hhigh
  exact ⟨hbelow.2 hlower, hchosen _ (by decide) hlower⟩

/-- With the beginning `1.` taken off, `1.5` ranks as `5` and is chosen before `2.3`. -/
theorem not_rank_kept_whatever_is_taken_off :
    ¬ ∀ (v w : DottedNumber) (versions : List String) (annotate : String) (starts : List String) (i : Int),
      LatestAt annotate v.text i → LatestAt annotate w.text i → w.text ∈ versions →
      v.rankOrder w = .lt → (rank versions annotate starts).chosen ≠ some v.text := by
  intro h
  have hlower : (DottedNumber.mk "1.5" (by decide)).rankOrder ⟨"2.3", by decide⟩ = .lt := by decide +kernel
  obtain ⟨hlow, hhigh⟩ := latestAt_oneInstant
  have hchosen : (rank ["1.5", "2.3", "beta"] oneInstant ["1."]).chosen = some "1.5" := by
    rw [rank, attributions_readAnnotate, attributed_oneInstant]
    decide +kernel
  exact h ⟨"1.5", by decide⟩ ⟨"2.3", by decide⟩ _ oneInstant ["1."] _ hlow hhigh (by decide) hlower hchosen

end RecipePins.History
