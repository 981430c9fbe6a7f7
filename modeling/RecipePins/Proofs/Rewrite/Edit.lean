import RecipePins.Proofs.Rewrite.Update

/-!
# Edits of a text

A revision of cells is a list of edits, each of which puts a version in the place of the version of
one token. Seen as spans of bytes of the original text the edits are in order and apart, and making
them all at once gives the revised text.
-/
namespace RecipePins
open Text

/-- A token of a text and the version to be written into it. -/
structure Edit where
  pin : Pin
  version : String

namespace Edit

/-- The bytes of the token's version and those that take their place. -/
def versionSpan (e : Edit) : Span where
  start := e.pin.offset + byteLength (e.pin.token.quote :: (e.pin.token.name.toList ++ ['/']))
  length := byteLength e.pin.token.version.toList
  bytes := encode e.version.toList

/-- The bytes of the whole token and those that take their place. -/
def tokenSpan (e : Edit) : Span where
  start := e.pin.offset
  length := e.pin.length
  bytes := encode (e.pin.token.withVersion e.version).chars

def ofOutcome? (o : PinOutcome) : Option Edit :=
  o.newVersion?.map (Edit.mk o.pin)

end Edit

/-- The edits made at some cells, of which the first one starts at `offset`. -/
def editsAt (asked : Token → Option String) (offset : Nat) (last : Option Token) : List Cell → List Edit
  | [] => []
  | a :: cs =>
    match changeAt asked last (opened (a :: cs)) with
    | some c =>
      ⟨⟨c.token, offset⟩, c.version⟩ :: editsAt asked (offset + byteLength a.chars) (some c.token) cs
    | none => editsAt asked (offset + byteLength a.chars) none cs

variable {asked : Token → Option String} {last : Option Token} {cs : List Cell}

theorem editsAt_cons_of_closed {a : Cell} (h : opened (a :: cs) = none) (offset : Nat) :
    editsAt asked offset last (a :: cs) = editsAt asked (offset + byteLength a.chars) none cs := by
  rw [editsAt, h, changeAt_none]

theorem Edit.versionSpan_stop (e : Edit) : e.versionSpan.stop =
    e.pin.offset + byteLength (e.pin.token.quote :: e.pin.token.inner) := by
  simp only [Edit.versionSpan, Span.stop, Token.inner, byteLength_cons, byteLength_append]
  simp only [byteLength]
  omega

theorem Edit.versionSpan_stop_add_one (e : Edit) (h : e.pin.token.Grammatical) :
    e.versionSpan.stop + 1 = e.pin.offset + e.pin.length := by
  rw [e.versionSpan_stop, e.pin.length_eq h]
  omega

theorem Edit.offset_lt_versionSpan_start (e : Edit) (h : e.pin.token.Grammatical) :
    e.pin.offset + 1 ≤ e.versionSpan.start := by
  simp only [Edit.versionSpan, byteLength_cons, utf8Size_of_isPinQuote h.quote]
  omega

/-- Where a change is made, its token stands. -/
theorem changeAt_stands {a : Cell} {c : Change} (h : ∀ b ∈ a :: cs, b.Proper)
    (hc : changeAt asked last (opened (a :: cs)) = some c) :
    c.token.Grammatical ∧ asked c.token = some c.version ∧ a = ⟨c.token.quote, c.token.inner⟩ ∧
      cs.head?.map Cell.quote = some c.token.quote := by
  obtain ⟨ho, -, hv⟩ := changeAt_eq_some_iff.1 hc
  obtain ⟨hg, ha, hq⟩ := (opened_cons_eq_some_iff h).1 ho
  exact ⟨hg, hv, ha, hq⟩

/-- An edit is asked for, and its token stands at its offset. -/
theorem mem_editsAt (h : ∀ a ∈ cs, a.Proper) {offset : Nat} {e : Edit}
    (he : e ∈ editsAt asked offset last cs) :
    e.pin.token.Grammatical ∧ asked e.pin.token = some e.version ∧
      ∃ before after, joinCells cs = before ++ (e.pin.token.chars ++ after) ∧
        offset + byteLength before = e.pin.offset := by
  induction cs generalizing offset last with
  | nil => cases he
  | cons a cs ih =>
    have hcs := (List.forall_mem_cons.1 h).2
    have hrest {last' : Option Token}
        (he : e ∈ editsAt asked (offset + byteLength a.chars) last' cs) :
        e.pin.token.Grammatical ∧ asked e.pin.token = some e.version ∧
          ∃ before after, joinCells (a :: cs) = before ++ (e.pin.token.chars ++ after) ∧
            offset + byteLength before = e.pin.offset := by
      obtain ⟨hg, hv, before, after, hj, ho⟩ := ih hcs he
      refine ⟨hg, hv, a.chars ++ before, after, ?_, ?_⟩
      · rw [joinCells_cons, hj, Cell.chars]
        simp
      · rw [byteLength_append, ← ho, Nat.add_assoc]
    rw [editsAt] at he
    split at he
    · next c hc =>
      rcases List.mem_cons.1 he with rfl | he
      · obtain ⟨hg, hv, rfl, hq⟩ := changeAt_stands h hc
        refine ⟨hg, hv, [], ?_⟩
        cases cs with
        | nil => cases hq
        | cons b cs =>
          have hb : b.quote = c.token.quote := by simpa using hq
          exact ⟨b.inner ++ joinCells cs, joinCells_token cs hb, by simp [byteLength]⟩
      · exact hrest he
    · exact hrest he

theorem offset_le_of_mem_editsAt (h : ∀ a ∈ cs, a.Proper) {offset : Nat} {e : Edit}
    (he : e ∈ editsAt asked offset last cs) : offset ≤ e.pin.offset := by
  obtain ⟨-, -, before, -, -, ho⟩ := mem_editsAt h he
  omega

theorem le_start_of_mem_editsAt (h : ∀ a ∈ cs, a.Proper) {offset : Nat} {p : Span}
    (hp : p ∈ (editsAt asked offset last cs).map Edit.versionSpan) : offset ≤ p.start := by
  obtain ⟨e, he, rfl⟩ := List.mem_map.1 hp
  have hle := offset_le_of_mem_editsAt h he
  have hlt := e.offset_lt_versionSpan_start (mem_editsAt h he).1
  omega

/-- The version of an edit ends with its cell. -/
theorem versionSpan_stop_eq {a : Cell} {c : Change} (ha : a = ⟨c.token.quote, c.token.inner⟩)
    (offset : Nat) :
    (Edit.versionSpan ⟨⟨c.token, offset⟩, c.version⟩).stop = offset + byteLength a.chars := by
  rw [Edit.versionSpan_stop, ha]
  rfl

/-- Every edit is over before the token of the next one begins. -/
theorem pairwise_editsAt (h : ∀ a ∈ cs, a.Proper) (offset : Nat) :
    (editsAt asked offset last cs).Pairwise fun e e' => e.versionSpan.stop ≤ e'.pin.offset := by
  induction cs generalizing offset last with
  | nil => exact .nil
  | cons a cs ih =>
    have hcs := (List.forall_mem_cons.1 h).2
    rw [editsAt]
    split
    · next c hc =>
      refine List.pairwise_cons.2 ⟨fun e he => ?_, ih hcs _⟩
      rw [versionSpan_stop_eq (changeAt_stands h hc).2.2.1]
      exact offset_le_of_mem_editsAt hcs he
    · exact ih hcs _

def Token.opening (t : Token) : List Char :=
  t.quote :: (t.name.toList ++ ['/'])

theorem Token.opening_append (t : Token) (v : String) :
    t.quote :: (t.withVersion v).inner = t.opening ++ v.toList := by
  simp [Token.opening, Token.inner, Token.withVersion]

/-- Replacing the versions all at once gives the revised cells. -/
theorem splice_editsAt (h : ∀ a ∈ cs, a.Proper) (offset : Nat) :
    splice offset ((editsAt asked offset last cs).map Edit.versionSpan) (encode (joinCells cs)) =
      encode (joinCells (revised asked last cs)) := by
  induction cs generalizing offset last with
  | nil => rfl
  | cons a cs ih =>
    have hcs := (List.forall_mem_cons.1 h).2
    rw [editsAt, revised_cons]
    cases hc : changeAt asked last (opened (a :: cs)) with
    | some c =>
      dsimp only
      obtain ⟨-, -, rfl, -⟩ := changeAt_stands h hc
      have hold : joinCells (⟨c.token.quote, c.token.inner⟩ :: cs) =
          c.token.opening ++ (c.token.version.toList ++ joinCells cs) := by
        rw [← List.append_assoc, ← Token.opening_append]
        rfl
      have hnew (rest : List Cell) :
          joinCells (Cell.revise ⟨c.token.quote, c.token.inner⟩ (some c) :: rest) =
            c.token.opening ++ (c.version.toList ++ joinCells rest) := by
        rw [← List.append_assoc, ← Token.opening_append]
        rfl
      have hstart : (Edit.versionSpan ⟨⟨c.token, offset⟩, c.version⟩).start =
          offset + (encode c.token.opening).length := by
        rw [length_encode]
        rfl
      have hstop := versionSpan_stop_eq (c := c) rfl offset
      rw [hold, hnew, encode_append, encode_append, List.map_cons, splice_keep,
        splice_replace hstart (length_encode _).symm, hstop, ih hcs, encode_append, encode_append]
      · rfl
      · intro p hp
        rcases List.mem_cons.1 hp with rfl | hp
        · exact Nat.le_of_eq hstart.symm
        · have hle := le_start_of_mem_editsAt hcs hp
          have hlen : (Edit.versionSpan ⟨⟨c.token, offset⟩, c.version⟩).start ≤
              (Edit.versionSpan ⟨⟨c.token, offset⟩, c.version⟩).stop := Nat.le_add_right _ _
          omega
    | none =>
      dsimp only
      rw [joinCells_cons_chars, joinCells_cons_chars, encode_append, encode_append, splice_keep,
        length_encode, ih hcs]
      · rfl
      · intro p hp
        rw [length_encode]
        exact le_start_of_mem_editsAt hcs hp

end RecipePins
