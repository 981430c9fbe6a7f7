import RecipePins.Proofs.Pin.Cell

/-!
# Tokens apart from each other

The tokens that stand in a text are those that open at its cells. They are apart exactly if no token
opens at the cell behind that of another one, which can be checked cell by cell.
-/
namespace RecipePins
open Text

/-- No token opens right behind another one. -/
def Separate : List Cell → Prop
  | [] => True
  | a :: cs => (opened (a :: cs) = none ∨ opened cs = none) ∧ Separate cs

instance decidableSeparate : (cs : List Cell) → Decidable (Separate cs)
  | [] => isTrue trivial
  | a :: cs =>
    have := decidableSeparate cs
    inferInstanceAs (Decidable ((opened (a :: cs) = none ∨ opened cs = none) ∧ Separate cs))

theorem separate_iff {cs : List Cell} : Separate cs ↔
    ∀ before a rest, cs = before ++ a :: rest → opened (a :: rest) = none ∨ opened rest = none := by
  induction cs with
  | nil => simp [Separate]
  | cons b cs ih =>
    rw [Separate, ih]
    constructor
    · rintro ⟨h, hcs⟩ before a rest he
      cases before with
      | nil =>
        obtain ⟨rfl, rfl⟩ := List.cons.inj he
        exact h
      | cons c before => exact hcs before a rest (List.cons.inj he).2
    · intro h
      exact ⟨h [] b cs rfl, fun before a rest he => h (b :: before) a rest (congrArg (b :: ·) he)⟩

/-- In front of a mark at which a token opens there is none that another one opens at. -/
theorem Separate.spots_pred {cs : List Cell} {i : Nat} {t : Token} (h : Separate cs)
    (hi : (spots cs)[i + 1]?.join = some t) : (spots cs)[i]?.join = none := by
  induction cs generalizing i with
  | nil => rfl
  | cons a cs ih =>
    cases i with
    | succ i => exact ih h.2 hi
    | zero =>
      cases cs with
      | nil => cases hi
      | cons b rest => exact h.1.resolve_right fun hn => absurd (hi.symm.trans hn) (by simp)

theorem opened_eq_some_iff {cs : List Cell} {t : Token} (ht : t.Grammatical) :
    opened cs = some t ↔ ∃ after, joinCells cs = t.chars ++ after := by
  constructor
  · intro h
    obtain ⟨⟨u, r⟩, hu, rfl⟩ := Option.map_eq_some_iff.1 h
    exact ⟨r, (token?_eq_some_iff.1 hu).2⟩
  · rintro ⟨after, h⟩
    rw [opened, h, ht.token?_chars]
    rfl

/-- Where a token stands in a text, it opens at a cell. -/
theorem stands_iff_opened {p : Pin} {s : List Char} (hp : p.token.Grammatical) :
    p.StandsIn s ↔ ∃ before cs, cells s = before ++ cs ∧ opened cs = some p.token ∧
      byteLength (lead s ++ joinCells before) = p.offset := by
  constructor
  · rintro ⟨before, after, rfl, ho⟩
    refine ⟨cells before, cells (p.token.chars ++ after), ?_, (opened_eq_some_iff hp).2 ⟨after, ?_⟩, ?_⟩
    · rw [Token.chars_append, cells_append_quote _ _ hp.quote]
    · conv => rhs; rw [← lead_append_joinCells (p.token.chars ++ after)]
      rw [Token.chars_append, lead_cons_quote _ hp.quote]
      rfl
    · rw [Token.chars_append, lead_append_quote _ _ hp.quote, lead_append_joinCells, ho]
  · rintro ⟨before, cs, hc, ho, hb⟩
    obtain ⟨after, hj⟩ := (opened_eq_some_iff hp).1 ho
    refine ⟨lead s ++ joinCells before, after, ?_, hb⟩
    conv => lhs; rw [← lead_append_joinCells s]
    rw [hc, joinCells_append, hj, List.append_assoc]

theorem Pin.length_eq_of_opened {a : Cell} {cs : List Cell} {p : Pin}
    (h : ∀ b ∈ a :: cs, b.Proper) (ho : opened (a :: cs) = some p.token) :
    p.length = byteLength a.chars + 1 := by
  obtain ⟨hg, rfl, -⟩ := (opened_cons_eq_some_iff h).1 ho
  exact p.length_eq hg

/-- Tokens that open at neighbouring cells share a mark. -/
theorem exists_sharing {s : List Char} {before rest : List Cell} {a : Cell} {t t' : Token}
    (hc : cells s = before ++ a :: rest) (ho : opened (a :: rest) = some t)
    (ho' : opened rest = some t') :
    ∃ p p' : Pin, p.token.Grammatical ∧ p'.token.Grammatical ∧ p.StandsIn s ∧ p'.StandsIn s ∧
      p.offset < p'.offset ∧ p'.offset < p.offset + p.length := by
  have hproper : ∀ b ∈ a :: rest, b.Proper := fun b hb =>
    proper_cells s b (hc ▸ List.mem_append_right _ hb)
  have hg := grammatical_of_opened ho
  have hg' := grammatical_of_opened ho'
  have hnext : byteLength (lead s ++ joinCells (before ++ [a])) =
      byteLength (lead s ++ joinCells before) + byteLength a.chars := by
    rw [joinCells_append, ← List.append_assoc, byteLength_append]
    simp [joinCells]
  have hlen := Pin.length_eq_of_opened (p := ⟨t, byteLength (lead s ++ joinCells before)⟩) hproper ho
  have hcell := byteLength_cell (hproper a (by simp))
  refine ⟨⟨t, byteLength (lead s ++ joinCells before)⟩,
    ⟨t', byteLength (lead s ++ joinCells (before ++ [a]))⟩, hg, hg',
    (stands_iff_opened hg).2 ⟨before, a :: rest, hc, ho, rfl⟩,
    (stands_iff_opened hg').2 ⟨before ++ [a], rest, ?_, ho', rfl⟩, ?_, ?_⟩
  · rw [hc, List.append_assoc]
    rfl
  · simp only [hnext]
    omega
  · simp only [hlen, hnext]
    omega

/-- A token ends before the next but one cell does. -/
theorem Pin.length_le_of_opened {p : Pin} {m cs : List Cell} {t : Token}
    (h : ∀ a ∈ m ++ cs, a.Proper) (hs : Separate (m ++ cs)) (hm : m ≠ [])
    (ho : opened (m ++ cs) = some p.token) (ho' : opened cs = some t) :
    p.length ≤ byteLength (joinCells m) := by
  cases m with
  | nil => exact absurd rfl hm
  | cons a m =>
    have hlen := Pin.length_eq_of_opened h ho
    rw [joinCells_cons_chars, byteLength_append, hlen]
    cases m with
    | nil =>
      rcases hs.1 with hn | hn
      · exact absurd (ho.symm.trans hn) (by simp)
      · exact absurd (ho'.symm.trans hn) (by simp)
    | cons b m =>
      have hcell := byteLength_cell (h b (by simp))
      rw [joinCells_cons_chars, byteLength_append]
      omega

theorem Separate.of_append {cs cs' : List Cell} (h : Separate (cs ++ cs')) : Separate cs' := by
  induction cs with
  | nil => exact h
  | cons a cs ih => exact ih h.2

/-- The tokens of a text are apart exactly if none opens right behind another one. -/
theorem tokensApart_iff {s : List Char} : TokensApart s ↔ Separate (cells s) := by
  constructor
  · intro h
    refine separate_iff.2 fun before a rest hc => ?_
    cases ho : opened (a :: rest) with
    | none => exact .inl rfl
    | some t =>
      cases ho' : opened rest with
      | none => exact .inr rfl
      | some t' =>
        obtain ⟨p, p', hg, hg', hs, hs', hlt, hshare⟩ := exists_sharing hc ho ho'
        exact absurd (h p p' hg hg' hs hs' hlt) (by omega)
  · intro h p p' hp hp' hs hs' hlt
    obtain ⟨before, cs, hc, ho, hb⟩ := (stands_iff_opened hp).1 hs
    obtain ⟨before', cs', hc', ho', hb'⟩ := (stands_iff_opened hp').1 hs'
    rcases List.append_eq_append_iff.1 (hc.symm.trans hc') with ⟨m, rfl, rfl⟩ | ⟨m, rfl, rfl⟩
    · rw [joinCells_append, ← List.append_assoc, byteLength_append] at hb'
      have hm : m ≠ [] := by
        rintro rfl
        simp only [joinCells, List.flatMap_nil, byteLength] at hb' hb
        omega
      have hproper : ∀ a ∈ m ++ cs', a.Proper := fun a ha =>
        proper_cells s a (hc ▸ List.mem_append_right _ ha)
      have hle := Pin.length_le_of_opened hproper (hc ▸ h).of_append hm ho ho'
      omega
    · rw [joinCells_append, ← List.append_assoc, byteLength_append] at hb
      omega

end RecipePins
