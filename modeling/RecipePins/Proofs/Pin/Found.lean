import RecipePins.Proofs.Pin.Cell

/-!
# Which tokens a scan finds

A scan finds a token unless its opening quotation mark has been taken as the closing mark of the one
before. Along a chain of tokens, each of which shares its marks with the next, it therefore finds the
first, the third and so on.
-/
namespace RecipePins
open Text

/-- The pins found at some cells; the first mark is taken if the token before it was found. -/
def pinsAt (offset : Nat) (taken : Bool) : List Cell → List Pin
  | [] => []
  | a :: cs =>
    match (if taken then none else opened (a :: cs)) with
    | some t => ⟨t, offset⟩ :: pinsAt (offset + byteLength a.chars) true cs
    | none => pinsAt (offset + byteLength a.chars) false cs

/-- The tokens found among those that open at some cells. -/
def found (taken : Bool) : List (Option Token) → List Token
  | [] => []
  | o :: os =>
    match (if taken then none else o) with
    | some t => t :: found true os
    | none => found false os

/-- Whether the mark at a place is not taken by a token that stands before it and was not itself
begun at a taken mark. -/
def free (taken : Bool) (stands : Nat → Bool) : Nat → Bool
  | 0 => !taken
  | i + 1 => !(stands i && free taken stands i)

/-- How many members stand one after another right before a place. -/
def chain (stands : Nat → Bool) : Nat → Nat
  | 0 => 0
  | i + 1 => if stands i then chain stands i + 1 else 0

theorem pinsFrom_nil (offset : Nat) : pinsFrom offset [] = [] := by
  rw [pinsFrom]
  rfl

theorem pinsFrom_token {offset : Nat} {s rest : List Char} {t : Token}
    (h : token? s = some (t, rest)) :
    pinsFrom offset s = ⟨t, offset⟩ :: pinsFrom (offset + byteLength t.chars) rest := by
  rw [pinsFrom]
  split
  · next t' rest' h' =>
    rw [h] at h'
    obtain ⟨rfl, rfl⟩ := Prod.mk.inj (Option.some.inj h')
    rfl
  · next h' =>
    rw [h] at h'
    cases h'

theorem pinsFrom_skip {offset : Nat} {c : Char} {s : List Char} (h : token? (c :: s) = none) :
    pinsFrom offset (c :: s) = pinsFrom (offset + c.utf8Size) s := by
  rw [pinsFrom]
  split
  · next t' rest' h' =>
    rw [h] at h'
    cases h'
  · rfl

theorem token?_plain_cons {c : Char} {s : List Char} (h : isPinQuote c = false) :
    token? (c :: s) = none := by
  cases ht : token? (c :: s) with
  | none => rfl
  | some p =>
    obtain ⟨t, rest⟩ := p
    obtain ⟨hg, he⟩ := token?_eq_some_iff.1 ht
    rw [Token.chars_append] at he
    obtain ⟨rfl, -⟩ := List.cons.inj he
    rw [hg.quote] at h
    cases h

theorem pinsFrom_plain_append {offset : Nat} {l s : List Char} (h : Plain l) :
    pinsFrom offset (l ++ s) = pinsFrom (offset + byteLength l) s := by
  induction l generalizing offset with
  | nil => rfl
  | cons c l ih =>
    obtain ⟨hc, hl⟩ := plain_cons.1 h
    rw [List.cons_append, pinsFrom_skip (token?_plain_cons hc), ih hl, byteLength_cons, Nat.add_assoc]

theorem opened_eq_none_iff {cs : List Cell} : opened cs = none ↔ token? (joinCells cs) = none :=
  Option.map_eq_none_iff

/-- A scan of a text cut into cells passes from cell to cell. -/
theorem pinsFrom_joinCells {cs : List Cell} (h : ∀ a ∈ cs, a.Proper) (offset : Nat) :
    pinsFrom offset (joinCells cs) = pinsAt offset false cs ∧
      ∀ a cs', cs = a :: cs' →
        pinsFrom (offset + 1) (a.inner ++ joinCells cs') = pinsAt offset true cs := by
  -- the second part is about a cell whose mark has closed a token
  induction cs generalizing offset with
  | nil => exact ⟨pinsFrom_nil offset, by simp⟩
  | cons a cs ih =>
    obtain ⟨ha, hcs⟩ := List.forall_mem_cons.1 h
    have hskip : pinsFrom (offset + 1) (a.inner ++ joinCells cs) =
        pinsAt (offset + byteLength a.chars) false cs := by
      rw [pinsFrom_plain_append ha.inner, (ih hcs _).1, byteLength_cell ha, Nat.add_assoc]
    constructor
    · rw [pinsAt, if_neg Bool.false_ne_true]
      cases ho : opened (a :: cs) with
      | none =>
        rw [opened_eq_none_iff, joinCells_cons] at ho
        rw [joinCells_cons, pinsFrom_skip ho, utf8Size_of_isPinQuote ha.quote, hskip]
      | some t =>
        obtain ⟨hg, rfl, hn⟩ := (opened_cons_eq_some_iff h).1 ho
        cases cs with
        | nil => cases hn
        | cons b cs =>
          have hb : b.quote = t.quote := by simpa using hn
          have hl : byteLength t.chars = byteLength (Cell.chars ⟨t.quote, t.inner⟩) + 1 :=
            Pin.length_eq ⟨t, offset⟩ hg
          rw [joinCells_token cs hb, pinsFrom_token (hg.token?_chars _), hl, ← Nat.add_assoc, (ih hcs _).2 b cs rfl]
    · rintro a' cs' he
      obtain ⟨rfl, rfl⟩ := List.cons.inj he
      rw [hskip]
      rfl

/-- The pins of a text, cell by cell. -/
theorem pinsFrom_zero (s : List Char) :
    pinsFrom 0 s = pinsAt (byteLength (lead s)) false (cells s) := by
  conv => lhs; rw [← lead_append_joinCells s]
  rw [pinsFrom_plain_append (plain_lead s), Nat.zero_add,
    (pinsFrom_joinCells (proper_cells s) _).1]

theorem map_token_pinsAt (offset : Nat) (taken : Bool) (cs : List Cell) :
    (pinsAt offset taken cs).map Pin.token = found taken (spots cs) := by
  induction cs generalizing offset taken with
  | nil => rfl
  | cons a cs ih =>
    rw [pinsAt, spots, found]
    split
    · next t h => rw [List.map_cons, ih]
    · next h => rw [ih]

theorem free_succ (taken : Bool) (stands : Nat → Bool) (i : Nat) :
    free taken stands (i + 1) = free (stands 0 && !taken) (fun j => stands (j + 1)) i := by
  induction i with
  | zero => rfl
  | succ i ih => rw [free, ih, free]

/-- A mark is free exactly if the chain of tokens that leads up to it is even. -/
theorem free_iff_chain (stands : Nat → Bool) (i : Nat) :
    free false stands i = true ↔ chain stands i % 2 = 0 := by
  induction i with
  | zero => simp [free, chain]
  | succ i ih =>
    rw [free, chain]
    cases hs : stands i with
    | false => simp
    | true =>
      cases hf : free false stands i with
      | false =>
        rw [hf] at ih
        simp only [Bool.false_eq_true, false_iff] at ih
        simp
        omega
      | true =>
        rw [hf] at ih
        simp only [true_iff] at ih
        simp
        omega

/-- A scan finds the tokens that stand at free marks. -/
theorem mem_found_iff {taken : Bool} {os : List (Option Token)} {t : Token} :
    t ∈ found taken os ↔ ∃ i, os[i]?.join = some t ∧
      free taken (fun j => (os[j]?.join).isSome) i = true := by
  induction os generalizing taken with
  | nil => simp [found]
  | cons o os ih =>
    have hstep : t ∈ found taken (o :: os) ↔
        (o = some t ∧ taken = false) ∨ t ∈ found (o.isSome && !taken) os := by
      rw [found]
      cases taken <;> cases o <;> simp [eq_comm]
    rw [hstep, ih]
    constructor
    · rintro (⟨rfl, rfl⟩ | ⟨i, hi, hf⟩)
      · exact ⟨0, rfl, rfl⟩
      · exact ⟨i + 1, hi, by rw [free_succ]; exact hf⟩
    · rintro ⟨i, hi, hf⟩
      cases i with
      | zero => exact .inl ⟨hi, by simpa [free] using hf⟩
      | succ i =>
        rw [free_succ] at hf
        exact .inr ⟨i, hi, hf⟩

end RecipePins
