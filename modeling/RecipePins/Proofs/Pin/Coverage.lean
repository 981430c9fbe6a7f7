import RecipePins.Proofs.Pin.Found

/-!
# What a scan covers

A scan reads a text from left to right and takes every token that it meets up to its closing mark. The
tokens it comes to therefore follow one another without sharing a byte. A token that stands in the text
is passed over only if its opening mark has just closed another one.
-/
namespace RecipePins
open Text

/-- The token stands at the offset of the pin in a text that starts at byte `offset`. -/
def Pin.StandsFrom (p : Pin) (offset : Nat) (s : List Char) : Prop :=
  ∃ before after, s = before ++ (p.token.chars ++ after) ∧ offset + byteLength before = p.offset

/-- The mark that closes the first token opens the second one. -/
def Pin.ClosesAt (p q : Pin) : Prop :=
  p.offset + p.length = q.offset + 1

/-- The first token is over before the second one begins. -/
def Pin.Precedes (p q : Pin) : Prop :=
  p.offset < q.offset ∧ p.offset + p.length ≤ q.offset

variable {p q : Pin} {offset : Nat} {s : List Char}

theorem Pin.standsFrom_zero : p.StandsFrom 0 s ↔ p.StandsIn s := by
  simp only [Pin.StandsFrom, Pin.StandsIn, Nat.zero_add]

theorem Pin.StandsFrom.append {l : List Char} (h : p.StandsFrom (offset + byteLength l) s) :
    p.StandsFrom offset (l ++ s) := by
  obtain ⟨before, after, rfl, ho⟩ := h
  refine ⟨l ++ before, after, by simp, ?_⟩
  rw [byteLength_append, ← Nat.add_assoc, ho]

theorem Pin.StandsFrom.le_offset (h : p.StandsFrom offset s) : offset ≤ p.offset := by
  obtain ⟨before, after, -, ho⟩ := h
  omega

theorem Pin.one_lt_length (p : Pin) : 1 < p.length := by
  have hopen := p.token.quote.utf8Size_pos
  have hslash := Char.utf8Size_pos '/'
  rw [Pin.length, Token.chars, byteLength_cons, byteLength_append, byteLength_cons]
  omega

/-- Every pin found is a token of the grammar that stands in the text. -/
theorem standsFrom_of_mem_pinsFrom (h : p ∈ pinsFrom offset s) :
    p.token.Grammatical ∧ p.StandsFrom offset s := by
  fun_induction pinsFrom offset s with
  | case1 offset s t rest ht ih =>
    obtain ⟨hg, rfl⟩ := token?_eq_some_iff.1 ht
    rcases List.mem_cons.1 h with rfl | h
    · exact ⟨hg, [], rest, rfl, rfl⟩
    · exact ⟨(ih h).1, (ih h).2.append⟩
  | case2 => cases h
  | case3 offset c s ht ih =>
    have hc : byteLength [c] = c.utf8Size := by simp [byteLength]
    rw [← hc] at h ih
    exact ⟨(ih h).1, (ih h).2.append⟩

/-- The pins found follow one another. -/
theorem pairwise_pinsFrom (offset : Nat) (s : List Char) :
    (pinsFrom offset s).Pairwise Pin.Precedes := by
  fun_induction pinsFrom offset s with
  | case1 offset s t rest ht ih =>
    refine List.pairwise_cons.2 ⟨fun p hp => ?_, ih⟩
    have hle := (standsFrom_of_mem_pinsFrom hp).2.le_offset
    have hlt := Pin.one_lt_length ⟨t, offset⟩
    simp only [Pin.Precedes, Pin.length] at hlt ⊢
    omega
  | case2 => exact .nil
  | case3 offset c s ht ih => exact ih

/-- A token that begins further on begins at the closing mark of the first one or behind it. -/
theorem Pin.closesAt_or_standsFrom {t : Token} {rest before after : List Char} (ht : t.Grammatical)
    (h : t.chars ++ rest = before ++ (q.token.chars ++ after)) (hp : t.quote :: t.inner <+: before)
    (ho : offset + byteLength before = q.offset) :
    Pin.ClosesAt ⟨t, offset⟩ q ∨ q.StandsFrom (offset + byteLength t.chars) rest := by
  obtain ⟨k, rfl⟩ := hp
  have hlen := Pin.length_eq ⟨t, offset⟩ ht
  rw [Token.chars_append, List.append_assoc, ← List.cons_append] at h
  have hk := List.append_cancel_left h
  rw [byteLength_append] at ho
  cases k with
  | nil =>
    left
    simp only [Pin.ClosesAt, hlen, byteLength] at ho ⊢
    omega
  | cons c k =>
    obtain ⟨rfl, rfl⟩ := List.cons.inj hk
    refine .inr ⟨k, after, rfl, ?_⟩
    have hmark : byteLength (t.quote :: k) = 1 + byteLength k := by
      rw [byteLength_cons, utf8Size_of_isPinQuote ht.quote]
    simp only [Pin.length] at hlen
    omega

/-- A token that stands in the text is found, or its opening mark closes one that is. -/
theorem mem_pinsFrom_or_closesAt (hq : q.token.Grammatical) (h : q.StandsFrom offset s) :
    q ∈ pinsFrom offset s ∨ ∃ p ∈ pinsFrom offset s, p.ClosesAt q := by
  fun_induction pinsFrom offset s with
  | case1 offset s t rest ht ih =>
    obtain ⟨hg, rfl⟩ := token?_eq_some_iff.1 ht
    obtain ⟨before, after, he, ho⟩ := h
    rcases hg.prefix_of_later hq he with ⟨rfl, rfl⟩ | hp
    · have hoff : offset = q.offset := by simpa [byteLength] using ho
      exact .inl (by simp [hoff])
    · rcases Pin.closesAt_or_standsFrom hg he hp ho with hc | hs
      · exact .inr ⟨_, List.mem_cons_self, hc⟩
      · rcases ih hs with hm | ⟨p, hm, hc⟩
        · exact .inl (List.mem_cons_of_mem _ hm)
        · exact .inr ⟨p, List.mem_cons_of_mem _ hm, hc⟩
  | case2 offset =>
    obtain ⟨before, after, he, -⟩ := h
    simp [Token.chars] at he
  | case3 offset c s ht ih =>
    obtain ⟨before, after, he, ho⟩ := h
    cases before with
    | nil =>
      rw [he, List.nil_append, hq.token?_chars] at ht
      cases ht
    | cons d before =>
      obtain ⟨rfl, rfl⟩ := List.cons.inj he
      rw [byteLength_cons, ← Nat.add_assoc] at ho
      exact ih ⟨before, after, rfl, ho⟩

/-- Of two pins found one comes first. -/
theorem precedes_or_precedes (hp : p ∈ pinsFrom offset s) (hq : q ∈ pinsFrom offset s) :
    p = q ∨ p.Precedes q ∨ q.Precedes p := by
  have h := pairwise_pinsFrom offset s
  exact List.Pairwise.forall_of_forall_of_flip
    (R := fun p q => p = q ∨ p.Precedes q ∨ q.Precedes p) (fun _ _ => .inl rfl)
    (h.imp fun hr => .inr (.inl hr)) (h.imp fun hr => .inr (.inr hr)) hp hq

/-- A token is found exactly if it stands in the text and no token found closes at its first mark. -/
theorem mem_pinsFrom_iff : q ∈ pinsFrom offset s ↔
    q.token.Grammatical ∧ q.StandsFrom offset s ∧ ∀ p ∈ pinsFrom offset s, ¬ p.ClosesAt q := by
  constructor
  · intro h
    obtain ⟨hg, hs⟩ := standsFrom_of_mem_pinsFrom h
    refine ⟨hg, hs, fun p hp hc => ?_⟩
    have hlt := p.one_lt_length
    have hlt' := q.one_lt_length
    rw [Pin.ClosesAt] at hc
    rcases precedes_or_precedes hp h with rfl | hr | hr
    · omega
    · exact absurd hr.2 (by omega)
    · exact absurd hr.2 (by omega)
  · rintro ⟨hg, hs, hn⟩
    exact (mem_pinsFrom_or_closesAt hg hs).resolve_right fun ⟨p, hp, hc⟩ => hn p hp hc

/-- Where tokens are apart, a scan finds every token that stands in the text and is not excluded. -/
theorem mem_scan_iff_of_tokensApart {policy : Exclusion} {text : String} (h : TokensApart text.toList) :
    q ∈ scan policy text ↔ q.token.Grammatical ∧ q.StandsIn text.toList ∧
      policy.excludes q.token.name q.token.version = false := by
  have hfound : q ∈ pinsFrom 0 text.toList ↔ q.token.Grammatical ∧ q.StandsIn text.toList := by
    rw [mem_pinsFrom_iff, Pin.standsFrom_zero]
    refine and_congr_right fun hg => and_iff_left_of_imp fun hs p hp hc => ?_
    obtain ⟨hpg, hps⟩ := standsFrom_of_mem_pinsFrom hp
    have hlt := p.one_lt_length
    have hshare := h p q hpg hg (Pin.standsFrom_zero.1 hps) hs
    rw [Pin.ClosesAt] at hc
    omega
  rw [scan, List.mem_filter, hfound, Bool.not_eq_true', and_assoc]

/-- A token found that closes at the first mark of another one is the last one found before it. -/
theorem offset_le_of_closesAt {m : Pin} (hp : p ∈ pinsFrom offset s) (hm : m ∈ pinsFrom offset s)
    (hc : p.ClosesAt q) (hlt : m.offset < q.offset) : m.offset ≤ p.offset := by
  rw [Pin.ClosesAt] at hc
  rcases precedes_or_precedes hp hm with rfl | hr | hr
  · exact Nat.le_refl _
  · exact absurd hr.2 (by omega)
  · exact Nat.le_of_lt hr.1

theorem lineEndsBefore_append (before s : List Char) :
    lineEndsBefore (byteLength before) (before ++ s) = before.count '\n' := by
  induction before with
  | nil => cases s <;> simp [lineEndsBefore, byteLength]
  | cons c before ih =>
    have hpos := c.utf8Size_pos
    rw [List.cons_append, lineEndsBefore, byteLength_cons, if_neg (by omega), Nat.add_sub_cancel_left,
      ih, List.count_cons, Nat.add_comm]
    simp

/-- The bytes at the place of a token are those of the token. -/
theorem Pin.StandsIn.bytes_eq {text : String} (h : p.StandsIn text.toList) :
    ((bytes text).drop p.offset).take p.length = bytes p.token.text := by
  obtain ⟨before, after, ht, hb⟩ := h
  rw [bytes_eq_encode, bytes_eq_encode, ht, encode_append, encode_append, ← hb, ← length_encode,
    List.drop_left, Pin.length, ← length_encode, List.take_left, Token.text, String.toList_ofList]

/-- A token begins between two characters of its text. -/
theorem Pin.StandsIn.isValid {text : String} (h : p.StandsIn text.toList) :
    String.Pos.Raw.IsValid text ⟨p.offset⟩ := by
  obtain ⟨before, after, ht, hb⟩ := h
  refine String.Pos.Raw.isValid_iff_exists_append.2
    ⟨String.ofList before, String.ofList (p.token.chars ++ after), ?_, ?_⟩
  · rw [← String.ofList_append, ← ht, String.ofList_toList]
  · rw [← hb, ← length_encode, ← String.toList_ofList (l := before), ← bytes_eq_encode,
      String.toList_ofList]
    rfl

/-- The pins of a scan are tokens that the policy does not exclude, one after the other and apart, each
on the line that the line ends before it tell. A token that stands in the text is left out exactly if it
is excluded or its opening mark closes the token, excluded or not, that the scan took last before it. -/
theorem scan_finds_tokens (policy : Exclusion) (text : String) :
    (scan policy text).Pairwise Pin.Precedes ∧
      (∀ p ∈ scan policy text, p.token.Grammatical ∧
        policy.excludes p.token.name p.token.version = false ∧
        ((bytes text).drop p.offset).take p.length = bytes p.token.text ∧
        String.Pos.Raw.IsValid text ⟨p.offset⟩ ∧
        ∃ before after, text.toList = before ++ (p.token.chars ++ after) ∧
          byteLength before = p.offset ∧ p.line text = 1 + before.count '\n') ∧
      ∀ p : Pin, p.token.Grammatical → p.StandsIn text.toList →
        (p ∉ scan policy text ↔ policy.excludes p.token.name p.token.version = true ∨
          ∃ m ∈ pinsFrom 0 text.toList, m.token.Grammatical ∧ m.StandsIn text.toList ∧ m.ClosesAt p ∧
            ∀ m' ∈ pinsFrom 0 text.toList, m'.offset < p.offset → m'.offset ≤ m.offset) := by
  refine ⟨(pairwise_pinsFrom 0 _).filter _, ?_, ?_⟩
  · intro p hp
    obtain ⟨hm, hx⟩ := List.mem_filter.1 hp
    obtain ⟨hg, hs⟩ := standsFrom_of_mem_pinsFrom hm
    rw [Pin.standsFrom_zero] at hs
    refine ⟨hg, by simpa using hx, hs.bytes_eq, hs.isValid, ?_⟩
    obtain ⟨before, after, ht, hb⟩ := hs
    refine ⟨before, after, ht, hb, ?_⟩
    rw [Pin.line, ht, ← hb, lineEndsBefore_append, Nat.add_comm]
  · intro p hg hs
    rw [scan, List.mem_filter, Bool.not_eq_true']
    constructor
    · intro hn
      by_cases hx : policy.excludes p.token.name p.token.version = true
      · exact .inl hx
      · have hout : p ∉ pinsFrom 0 text.toList := fun hm => hn ⟨hm, by simpa using hx⟩
        obtain ⟨m, hm, hc⟩ :=
          (mem_pinsFrom_or_closesAt hg (Pin.standsFrom_zero.2 hs)).resolve_left hout
        obtain ⟨hmg, hms⟩ := standsFrom_of_mem_pinsFrom hm
        exact .inr ⟨m, hm, hmg, Pin.standsFrom_zero.1 hms, hc,
          fun m' hm' hlt => offset_le_of_closesAt hm hm' hc hlt⟩
    · rintro (hx | ⟨m, hm, -, -, hc, -⟩) ⟨hp, hx'⟩
      · rw [hx] at hx'
        cases hx'
      · exact (mem_pinsFrom_iff.1 hp).2.2 m hm hc

theorem scan_passes_over_cmake :
    ∃ m ∈ pinsFrom 0 "é\n'lib/1'zlib/2'\"zlib/1.2.13\"cmake/3.24.0\"".toList,
      m.token.Grammatical ∧ m.StandsIn "é\n'lib/1'zlib/2'\"zlib/1.2.13\"cmake/3.24.0\"".toList ∧
        m.ClosesAt ⟨⟨'"', "cmake", "3.24.0"⟩, 29⟩ := by
  have hg : Token.Grammatical ⟨'"', "cmake", "3.24.0"⟩ := ⟨by decide, by decide, by decide⟩
  have hs : Pin.StandsIn ⟨⟨'"', "cmake", "3.24.0"⟩, 29⟩
      "é\n'lib/1'zlib/2'\"zlib/1.2.13\"cmake/3.24.0\"".toList :=
    ⟨"é\n'lib/1'zlib/2'\"zlib/1.2.13".toList, [], by decide, by decide⟩
  obtain ⟨-, -, h⟩ := scan_finds_tokens ⟨["lib"], true⟩ "é\n'lib/1'zlib/2'\"zlib/1.2.13\"cmake/3.24.0\""
  obtain ⟨m, hm, hmg, hms, hc, -⟩ := ((h _ hg hs).1 (by decide +kernel)).resolve_left (by decide +kernel)
  exact ⟨m, hm, hmg, hms, hc⟩

end RecipePins
