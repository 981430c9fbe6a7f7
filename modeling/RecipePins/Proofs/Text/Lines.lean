import Mathlib.Data.List.Basic
import RecipePins.Proofs.Text.Fields
import RecipePins.Proofs.Text.Search

/-!
# The lines of a text

A line ends at a line feed, before which a carriage return may stand; what follows the last line feed is a
line if it is not empty. What passes over blanks at the end of a line need not know of carriage returns.
-/
namespace RecipePins.Text

/-- A text without the carriage return that ends it. -/
def dropReturn (s : List Char) : List Char :=
  if s.getLast? = some '\r' then s.dropLast else s

/-- The lines that pieces between line feeds make. -/
def ofPieces : List (List Char) → List (List Char)
  | [] => []
  | [last] => if last = [] then [] else [last]
  | piece :: pieces => dropReturn piece :: ofPieces pieces

def lines (s : List Char) : List (List Char) :=
  ofPieces (fields '\n' s)

theorem dropReturn_eq_or (s : List Char) : dropReturn s = s ∨ s = dropReturn s ++ ['\r'] := by
  rw [dropReturn]
  split
  · next h => exact .inr (List.dropLast_append_getLast? '\r' h).symm
  · exact .inl rfl

theorem ofPieces_cons {piece : List Char} {pieces : List (List Char)} (h : pieces ≠ []) :
    ofPieces (piece :: pieces) = dropReturn piece :: ofPieces pieces := by
  cases pieces with
  | nil => exact absurd rfl h
  | cons => rfl

theorem dropReturn_prefix_self (s : List Char) : dropReturn s <+: s := by
  rw [dropReturn]
  split
  · exact List.dropLast_prefix s
  · exact List.prefix_refl s

theorem exists_mem_of_mem_ofPieces {pieces : List (List Char)} {line : List Char}
    (h : line ∈ ofPieces pieces) : ∃ piece ∈ pieces, line <+: piece := by
  induction pieces with
  | nil => cases h
  | cons p ps ih =>
    by_cases hp : ps = []
    · subst hp
      rw [ofPieces] at h
      split at h
      · cases h
      · exact ⟨p, List.mem_cons_self, List.mem_singleton.1 h ▸ List.prefix_refl p⟩
    · rw [ofPieces_cons hp] at h
      rcases List.mem_cons.1 h with rfl | h
      · exact ⟨p, List.mem_cons_self, dropReturn_prefix_self p⟩
      · obtain ⟨piece, hm, hpre⟩ := ih h
        exact ⟨piece, List.mem_cons_of_mem p hm, hpre⟩

theorem newline_not_mem_of_mem_lines {s line : List Char} (h : line ∈ lines s) : '\n' ∉ line := by
  obtain ⟨piece, hm, hpre⟩ := exists_mem_of_mem_ofPieces h
  exact fun hc => not_mem_of_mem_fields hm (hpre.subset hc)

/-- Lines that are written out one after the other are the lines of the text. -/
theorem lines_flatMap {ls : List (List Char)} (h : ∀ line ∈ ls, '\n' ∉ line ∧ line.getLast? ≠ some '\r') :
    lines (ls.flatMap (· ++ ['\n'])) = ls := by
  induction ls with
  | nil => rfl
  | cons line ls ih =>
    obtain ⟨hline, hreturn⟩ := h line List.mem_cons_self
    rw [List.flatMap_cons, List.append_assoc, List.singleton_append, lines, fields_append_cons hline,
      ofPieces_cons (fields_ne_nil _ _), dropReturn, if_neg hreturn]
    exact congrArg (line :: ·) (ih fun l hl => h l (List.mem_cons_of_mem line hl))

/-- Where empty lines and carriage returns do not matter, the pieces between line feeds will do. -/
theorem filterMap_lines {β : Type} {f : List Char → Option β} (hempty : f [] = none)
    (hreturn : ∀ s, f (dropReturn s) = f s) (s : List Char) :
    (lines s).filterMap f = (fields '\n' s).filterMap f := by
  have pieces (ps : List (List Char)) : (ofPieces ps).filterMap f = ps.filterMap f := by
    induction ps with
    | nil => rfl
    | cons p ps ih =>
      by_cases hp : ps = []
      · subst hp
        by_cases he : p = [] <;> simp [ofPieces, he, hempty]
      · rw [ofPieces_cons hp, List.filterMap_cons, List.filterMap_cons, hreturn, ih]
  exact pieces _

theorem trimEnd_append_blank {s : List Char} {c : Char} (hc : isBlank c = true) :
    trimEnd (s ++ [c]) = trimEnd s := by
  simp [trimEnd, hc]

theorem trim_append_blank {s : List Char} {c : Char} (hc : isBlank c = true) :
    trim (s ++ [c]) = trim s := by
  rw [trim, trim, List.dropWhile_append]
  split
  · next he => simp [List.isEmpty_iff.1 he, hc]
  · exact trimEnd_append_blank hc

end RecipePins.Text
