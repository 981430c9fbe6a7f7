import RecipePins.Proofs.Pin.Place

/-!
# Text cut at its quotation marks

A text is its lead, up to the first quotation mark, and a cell for each mark with what follows up to
the next one. A token opens at a cell if it is written there and the next cell begins with the same
mark. A scan passes from cell to cell: where a token opens it takes the next mark with it.
-/
namespace RecipePins
open Text

/-- A quotation mark and the text up to the next one. -/
structure Cell where
  quote : Char
  inner : List Char
  deriving DecidableEq

def Cell.chars (a : Cell) : List Char :=
  a.quote :: a.inner

/-- What a cell is in a text that has been cut. -/
structure Cell.Proper (a : Cell) : Prop where
  quote : isPinQuote a.quote = true
  inner : Plain a.inner

def joinCells (cs : List Cell) : List Char :=
  cs.flatMap Cell.chars

/-- The text before the first quotation mark. -/
def lead (s : List Char) : List Char :=
  s.takeWhile fun c => !isPinQuote c

def cells : List Char → List Cell
  | [] => []
  | c :: s => if isPinQuote c then ⟨c, lead s⟩ :: cells s else cells s

/-- The token that opens at the first of some cells. -/
def opened (cs : List Cell) : Option Token :=
  (token? (joinCells cs)).map Prod.fst

/-- The token that opens at each cell. -/
def spots : List Cell → List (Option Token)
  | [] => []
  | a :: cs => opened (a :: cs) :: spots cs

theorem joinCells_cons (a : Cell) (cs : List Cell) :
    joinCells (a :: cs) = a.quote :: (a.inner ++ joinCells cs) := by
  simp [joinCells, Cell.chars]

theorem joinCells_cons_chars (a : Cell) (cs : List Cell) :
    joinCells (a :: cs) = a.chars ++ joinCells cs := rfl

/-- A token written over two cells. -/
theorem joinCells_token {t : Token} {b : Cell} (cs : List Cell) (h : b.quote = t.quote) :
    joinCells (⟨t.quote, t.inner⟩ :: b :: cs) = t.chars ++ (b.inner ++ joinCells cs) := by
  rw [joinCells_cons, joinCells_cons, h, Token.chars_append]

theorem joinCells_append (cs cs' : List Cell) : joinCells (cs ++ cs') = joinCells cs ++ joinCells cs' :=
  List.flatMap_append

theorem byteLength_cell {a : Cell} (h : a.Proper) : byteLength a.chars = 1 + byteLength a.inner := by
  rw [Cell.chars, byteLength_cons, utf8Size_of_isPinQuote h.quote]

theorem plain_lead (s : List Char) : Plain (lead s) := by
  intro c hc
  simpa using List.all_eq_true.1 List.all_takeWhile c hc

theorem lead_append {l s : List Char} (h : Plain l) : lead (l ++ s) = l ++ lead s :=
  List.takeWhile_append_of_pos (by simpa [Plain] using h)

theorem lead_cons_quote {q : Char} (s : List Char) (h : isPinQuote q = true) : lead (q :: s) = [] :=
  List.takeWhile_cons_of_neg (by simp [h])

theorem cells_plain_append {l : List Char} (s : List Char) (h : Plain l) :
    cells (l ++ s) = cells s := by
  induction l with
  | nil => rfl
  | cons c l ih =>
    obtain ⟨hc, hl⟩ := plain_cons.1 h
    rw [List.cons_append, cells, hc]
    exact ih hl

theorem cells_cons_quote {q : Char} (s : List Char) (h : isPinQuote q = true) :
    cells (q :: s) = ⟨q, lead s⟩ :: cells s := by
  rw [cells, if_pos h]

theorem lead_append_quote (x s : List Char) {q : Char} (h : isPinQuote q = true) :
    lead (x ++ q :: s) = lead x := by
  induction x with
  | nil => exact lead_cons_quote s h
  | cons c x ih =>
    by_cases hc : isPinQuote c = true
    · rw [List.cons_append, lead_cons_quote _ hc, lead_cons_quote _ hc]
    · rw [List.cons_append, lead, lead, List.takeWhile_cons_of_pos (by simpa using hc),
        List.takeWhile_cons_of_pos (by simpa using hc)]
      exact congrArg (c :: ·) ih

/-- A quotation mark parts the cells before it from those after it. -/
theorem cells_append_quote (x s : List Char) {q : Char} (h : isPinQuote q = true) :
    cells (x ++ q :: s) = cells x ++ cells (q :: s) := by
  induction x with
  | nil => rfl
  | cons c x ih =>
    rw [List.cons_append, cells, cells, lead_append_quote x s h, ih]
    split <;> rfl

theorem lead_append_joinCells (s : List Char) : lead s ++ joinCells (cells s) = s := by
  induction s with
  | nil => rfl
  | cons c s ih =>
    by_cases hc : isPinQuote c = true
    · rw [cells_cons_quote s hc, lead_cons_quote s hc, joinCells_cons, ih, List.nil_append]
    · have hl : lead (c :: s) = c :: lead s := List.takeWhile_cons_of_pos (by simpa using hc)
      rw [cells, if_neg hc, hl, List.cons_append, ih]

theorem proper_cells (s : List Char) : ∀ a ∈ cells s, a.Proper := by
  induction s with
  | nil => simp [cells]
  | cons c s ih =>
    rw [cells]
    split
    · next hc => exact List.forall_mem_cons.2 ⟨⟨hc, plain_lead s⟩, ih⟩
    · exact ih

theorem lead_joinCells {cs : List Cell} (h : ∀ a ∈ cs, a.Proper) : lead (joinCells cs) = [] := by
  cases cs with
  | nil => rfl
  | cons a cs => rw [joinCells_cons, lead_cons_quote _ (h a (by simp)).quote]

/-- Cells are the cells of the text they make up, whatever comes before them. -/
theorem cells_joinCells {l : List Char} {cs : List Cell} (hl : Plain l) (h : ∀ a ∈ cs, a.Proper) :
    cells (l ++ joinCells cs) = cs := by
  rw [cells_plain_append _ hl]
  induction cs with
  | nil => rfl
  | cons a cs ih =>
    obtain ⟨ha, hcs⟩ := List.forall_mem_cons.1 h
    rw [joinCells_cons, cells_cons_quote _ ha.quote, cells_plain_append _ ha.inner, ih hcs,
      lead_append ha.inner, lead_joinCells hcs, List.append_nil]

theorem grammatical_of_opened {cs : List Cell} {t : Token} (h : opened cs = some t) : t.Grammatical := by
  obtain ⟨⟨u, r⟩, ht, rfl⟩ := Option.map_eq_some_iff.1 h
  exact (token?_eq_some_iff.1 ht).1

/-- A token opens at a cell that it fills, if the next cell begins with its quotation mark. -/
theorem opened_cons_eq_some_iff {a : Cell} {cs : List Cell} {t : Token}
    (h : ∀ b ∈ a :: cs, b.Proper) :
    opened (a :: cs) = some t ↔
      t.Grammatical ∧ a = ⟨t.quote, t.inner⟩ ∧ cs.head?.map Cell.quote = some t.quote := by
  obtain ⟨ha, hcs⟩ := List.forall_mem_cons.1 h
  constructor
  · intro ho
    obtain ⟨⟨u, r⟩, ht, rfl⟩ := Option.map_eq_some_iff.1 ho
    obtain ⟨hg, he⟩ := token?_eq_some_iff.1 ht
    rw [joinCells_cons, Token.chars_append] at he
    obtain ⟨hq, he⟩ := List.cons.inj he
    cases cs with
    | nil =>
      have hm : u.quote ∈ a.inner := by
        have : u.quote ∈ u.inner ++ u.quote :: r := by simp
        rw [← he] at this
        simpa [joinCells] using this
      have hp := ha.inner _ hm
      rw [hg.quote] at hp
      cases hp
    | cons b cs =>
      rw [joinCells_cons] at he
      obtain ⟨hi, hb, -⟩ := plain_cut ha.inner hg.plain_inner (hcs b (by simp)).quote hg.quote he
      refine ⟨hg, ?_, by simp [hb]⟩
      cases a
      simp_all
  · rintro ⟨hg, rfl, hn⟩
    cases cs with
    | nil => cases hn
    | cons b cs =>
      have hb : b.quote = t.quote := by simpa using hn
      rw [opened, joinCells_token cs hb, hg.token?_chars]
      rfl

end RecipePins
