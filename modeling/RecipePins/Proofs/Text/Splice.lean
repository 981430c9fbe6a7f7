import RecipePins.Text.Split

/-!
# Replacing parts of a text by their place in bytes

A span names a part of a text by byte offset and length and gives the bytes to stand in its place.
All offsets are those of the original text, so the spans of a list are replaced at once and none sees
what another one has put in.
-/
namespace RecipePins.Text

/-- The UTF-8 bytes of a text given by its characters. -/
def encode (s : List Char) : List UInt8 :=
  s.flatMap String.utf8EncodeChar

/-- The UTF-8 bytes of a text. -/
def bytes (s : String) : List UInt8 :=
  s.toUTF8.data.toList

/-- A part of a text and the bytes that replace it. -/
structure Span where
  start : Nat
  length : Nat
  bytes : List UInt8

/-- The first byte after the part. -/
def Span.stop (p : Span) : Nat :=
  p.start + p.length

/-- The bytes that follow offset `here`, with each part replaced. The spans are in order. -/
def splice (here : Nat) : List Span → List UInt8 → List UInt8
  | [], s => s
  | p :: ps, s => s.take (p.start - here) ++ p.bytes ++ splice p.stop ps (s.drop (p.stop - here))

theorem bytes_eq_encode (s : String) : bytes s = encode s.toList := by
  conv => lhs; rw [← String.ofList_toList (s := s)]
  exact List.toList_data_toByteArray

theorem encode_append (s t : List Char) : encode (s ++ t) = encode s ++ encode t :=
  List.flatMap_append

theorem encode_cons (c : Char) (s : List Char) :
    encode (c :: s) = String.utf8EncodeChar c ++ encode s :=
  List.flatMap_cons

theorem length_encode (s : List Char) : (encode s).length = byteLength s := by
  induction s with
  | nil => rfl
  | cons c s ih => simp [encode_cons, byteLength, ih]

theorem byteLength_append (s t : List Char) : byteLength (s ++ t) = byteLength s + byteLength t := by
  induction s with
  | nil => simp [byteLength]
  | cons c s ih => simp [byteLength, ih, Nat.add_assoc]

theorem byteLength_cons (c : Char) (s : List Char) :
    byteLength (c :: s) = c.utf8Size + byteLength s := rfl

theorem byteLength_mono {s t : List Char} (h : s <+: t) : byteLength s ≤ byteLength t := by
  obtain ⟨u, rfl⟩ := h
  rw [byteLength_append]
  omega

/-- What comes before every part stays. -/
theorem splice_keep {here : Nat} {ps : List Span} {k s : List UInt8}
    (h : ∀ p ∈ ps, here + k.length ≤ p.start) :
    splice here ps (k ++ s) = k ++ splice (here + k.length) ps s := by
  cases ps with
  | nil => rfl
  | cons p ps =>
    have hp := h p (by simp)
    have hd : p.stop - here = k.length + (p.stop - (here + k.length)) := by
      have : p.start ≤ p.stop := Nat.le_add_right _ _
      omega
    have ht : p.start - here = k.length + (p.start - (here + k.length)) := by omega
    rw [splice, splice, ht, hd, List.take_length_add_append, List.drop_length_add_append]
    simp

/-- A part that starts here is replaced. -/
theorem splice_replace {here : Nat} {ps : List Span} {p : Span} {old s : List UInt8}
    (hs : p.start = here) (hl : p.length = old.length) :
    splice here (p :: ps) (old ++ s) = p.bytes ++ splice p.stop ps s := by
  have hd : p.stop - here = old.length := by
    rw [Span.stop]
    omega
  rw [splice, hs, hd, Nat.sub_self]
  simp

/-- A window that no part meets stays, wherever what stands before it is moved to. -/
theorem splice_window {here : Nat} {ps : List Span} {k w s : List UInt8}
    (ho : ps.Pairwise fun p p' => p.stop ≤ p'.start) (hs : ∀ p ∈ ps, here ≤ p.start)
    (h : ∀ p ∈ ps, p.stop ≤ here + k.length ∨ here + k.length + w.length ≤ p.start) :
    ∃ before after, splice here ps (k ++ (w ++ s)) = before ++ (w ++ after) := by
  induction ps generalizing here k with
  | nil => exact ⟨k, s, rfl⟩
  | cons p ps ih =>
    obtain ⟨hp, ho⟩ := List.pairwise_cons.1 ho
    have hstart := hs p (by simp)
    have hstop : p.start ≤ p.stop := Nat.le_add_right _ _
    rcases h p (by simp) with hbefore | hafter
    · have hd : (k ++ (w ++ s)).drop (p.stop - here) = k.drop (p.stop - here) ++ (w ++ s) :=
        List.drop_append_of_le_length (by omega)
      have hl : p.stop + (k.drop (p.stop - here)).length = here + k.length := by
        rw [List.length_drop]
        omega
      obtain ⟨before, after, he⟩ := ih (k := k.drop (p.stop - here)) ho hp fun p' hp' => by
        rw [hl]
        exact h p' (List.mem_cons_of_mem _ hp')
      exact ⟨_ ++ before, after, by rw [splice, hd, he, ← List.append_assoc]⟩
    · have hlater : ∀ p' ∈ p :: ps, here + k.length + w.length ≤ p'.start := by
        intro p' hp'
        rcases List.mem_cons.1 hp' with rfl | hp'
        · exact hafter
        · have := hp p' hp'
          omega
      have hkeep := @splice_keep here (p :: ps) (k ++ w) s fun p' hp' => by
        rw [List.length_append, ← Nat.add_assoc]
        exact hlater p' hp'
      refine ⟨k, splice (here + (k ++ w).length) (p :: ps) s, ?_⟩
      rw [← List.append_assoc, hkeep, List.append_assoc]

end RecipePins.Text
