import Mathlib.Data.List.TakeWhile
import RecipePins.Disk.Files

/-!
# The directory of a file

A path that names no directory above it is empty or leads to the root. So a path to a file has a
directory.
-/
namespace RecipePins.Disk

theorem fields_slash_eq_nil_cons {s : List Char} {rest : List (List Char)}
    (h : Text.fields '/' s = [] :: rest) : s = [] ∨ s.head? = some '/' := by
  cases s with
  | nil => exact .inl rfl
  | cons c s =>
    right
    rw [Text.fields] at h
    split at h
    · next hc => rw [hc, List.head?_cons]
    · cases hf : Text.fields '/' s with
      | nil => exact absurd hf (Text.fields_ne_nil '/' s)
      | cons f fs =>
        rw [hf, Text.consField] at h
        cases h

/-- Without a directory above it a path has no part that names anything. -/
theorem fields_of_parent?_eq_none {path : String} (h : parent? path = none) :
    ∃ rest, Text.fields '/' path.toList = [] :: rest ∧ ∀ p ∈ rest, p = [] ∨ p = ['.'] := by
  have hparts : parts path = [] ∨ parts path = [[]] := by
    unfold parent? at h
    split at h
    · next hp => exact .inl hp
    · next hp => exact .inr hp
    · cases h
    · split at h <;> cases h
  obtain ⟨first, rest, hf⟩ := List.exists_cons_of_ne_nil (Text.fields_ne_nil '/' path.toList)
  rw [parts, hf, trimParts] at hparts
  obtain ⟨rfl, hrest⟩ := List.cons.inj (hparts.resolve_left (by simp))
  refine ⟨rest, hf, fun p hp => ?_⟩
  rw [List.reverse_eq_nil_iff, List.dropWhile_eq_nil_iff] at hrest
  simpa using hrest p (List.mem_reverse.2 hp)

namespace Files

variable {files : Files}

theorem follow_of_stays {links : Nat} {l : Location} (hl : files.hasDirectory l = true) {names : List String}
    (h : ∀ name ∈ names, name = "" ∨ name = ".") : files.follow links l names = .ok l := by
  induction names with
  | nil => rw [follow]
  | cons name names ih =>
    rw [List.forall_mem_cons] at h
    have hname : (name = "" || name = ".") = true := by simpa using h.1
    rw [follow, hl, Bool.not_true, if_neg Bool.false_ne_true, if_pos hname, ih h.2]

/-- A path that stays at the root leads nowhere else. -/
theorem eq_nil_of_locate {path : String} {l : Location} (hp : isAbsolute path = true)
    (h : ∀ name ∈ names path, name = "" ∨ name = ".") (hl : files.locate path = .ok l) : l = [] := by
  unfold locate at hl
  split at hl
  · cases hl
  · split at hl
    · cases hl
    · split at hl
      · cases hl
      · rw [start, if_pos hp, follow_of_stays rfl h] at hl
        exact (Except.ok.inj hl).symm

theorem read_of_stays {path : String} (hp : isAbsolute path = true)
    (h : ∀ name ∈ names path, name = "" ∨ name = ".") : ∃ fault, files.read path = .error fault := by
  cases hl : files.locate path with
  | error fault => exact ⟨fault, by simp only [read, hl]⟩
  | ok l =>
    obtain rfl := eq_nil_of_locate hp h hl
    exact ⟨.isDirectory, by simp only [read, hl, node?, List.isEmpty_nil, if_true]⟩

/-- A path without a directory above it leads to no file. -/
theorem read_of_parent?_eq_none {path : String} (h : parent? path = none) :
    ∃ fault, files.read path = .error fault := by
  obtain ⟨rest, hf, hrest⟩ := fields_of_parent?_eq_none h
  rcases fields_slash_eq_nil_cons hf with hempty | hroot
  · obtain rfl := String.toList_eq_nil_iff.1 hempty
    exact ⟨.missing, by simp [read, locate]⟩
  · refine read_of_stays (by simp [isAbsolute, hroot]) fun name hname => ?_
    rw [names, hf, List.map_cons, List.mem_cons] at hname
    rcases hname with rfl | hname
    · exact .inl rfl
    · obtain ⟨p, hp, rfl⟩ := List.mem_map.1 hname
      exact (hrest p hp).imp (congrArg String.ofList) (congrArg String.ofList)

/-- A file that can be read lies in a directory. -/
theorem exists_parent {path text : String} (h : files.readText path = .ok text) :
    ∃ base, parent? path = some base := by
  rw [← Option.ne_none_iff_exists']
  intro hp
  have hnone : ∃ fault, files.read path = .error fault := read_of_parent?_eq_none hp
  obtain ⟨fault, hr⟩ := hnone
  rw [readText, hr] at h
  cases h

end Files

end RecipePins.Disk
