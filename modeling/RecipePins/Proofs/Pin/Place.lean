import RecipePins.Proofs.Pin.Grammar
import RecipePins.Proofs.Text.Splice

/-!
# Places of tokens in a text

A pin stands in a text if its token is written at its offset. Two tokens of a text either are the
same or share at most one quotation mark; a text is apart if they do not share even that.
-/
namespace RecipePins
open Text

/-- The token is written at the offset of the pin. -/
def Pin.StandsIn (p : Pin) (s : List Char) : Prop :=
  ∃ before after, s = before ++ (p.token.chars ++ after) ∧ byteLength before = p.offset

/-- No two tokens of a text share a quotation mark. -/
def TokensApart (s : List Char) : Prop :=
  ∀ p p' : Pin, p.token.Grammatical → p'.token.Grammatical → p.StandsIn s → p'.StandsIn s →
    p.offset < p'.offset → p.offset + p.length ≤ p'.offset

theorem utf8Size_of_isPinQuote {c : Char} (h : isPinQuote c = true) : c.utf8Size = 1 := by
  rw [isPinQuote, Bool.or_eq_true, beq_iff_eq, beq_iff_eq] at h
  rcases h with rfl | rfl <;> decide

/-- Text without quotation marks ends before the first of them. -/
theorem isPrefix_of_plain {a b s r : List Char} {q : Char} (ha : Plain a) (hq : isPinQuote q = true)
    (h : a ++ s = b ++ q :: r) : a <+: b := by
  rcases List.append_eq_append_iff.1 h with ⟨m, rfl, -⟩ | ⟨m, hm, hr⟩
  · exact List.prefix_append _ _
  · cases m with
    | nil =>
      obtain rfl : a = b := by rw [hm, List.append_nil]
      exact List.prefix_rfl
    | cons c m =>
      obtain ⟨rfl, -⟩ := List.cons.inj hr
      have hc := ha q (by simp [hm])
      rw [hq] at hc
      cases hc

/-- A text is cut in one way at its first quotation mark. -/
theorem plain_cut {a b s r : List Char} {q q' : Char} (ha : Plain a) (hb : Plain b)
    (hq : isPinQuote q = true) (hq' : isPinQuote q' = true) (h : a ++ q :: s = b ++ q' :: r) :
    a = b ∧ q = q' ∧ s = r := by
  have hab := (isPrefix_of_plain ha hq' h).eq_of_length_le (isPrefix_of_plain hb hq h.symm).length_le
  subst hab
  exact ⟨rfl, List.cons.inj (List.append_cancel_left h)⟩

theorem Token.Grammatical.eq_of_chars_append {t t' : Token} {s s' : List Char}
    (ht : t.Grammatical) (ht' : t'.Grammatical) (h : t.chars ++ s = t'.chars ++ s') :
    t = t' ∧ s = s' := by
  have hs := ht.token?_chars s
  rw [h, ht'.token?_chars s'] at hs
  obtain ⟨rfl, rfl⟩ := Prod.mk.inj (Option.some.inj hs)
  exact ⟨rfl, rfl⟩

theorem Token.Grammatical.eq_of_chars {t t' : Token} (ht : t.Grammatical) (ht' : t'.Grammatical)
    (h : t.chars = t'.chars) : t = t' :=
  (ht.eq_of_chars_append ht' (congrArg (· ++ []) h)).1

theorem Pin.length_eq (p : Pin) (hp : p.token.Grammatical) :
    p.length = byteLength (p.token.quote :: p.token.inner) + 1 := by
  rw [Pin.length, Token.chars_eq_inner, ← List.cons_append, byteLength_append]
  simp [byteLength, utf8Size_of_isPinQuote hp.quote]

/-- A token that stands further on begins after the other one's name and version. -/
theorem Token.Grammatical.prefix_of_later {t t' : Token} {m s s' : List Char} (ht : t.Grammatical)
    (ht' : t'.Grammatical) (h : t.chars ++ s = m ++ (t'.chars ++ s')) :
    m = [] ∧ t = t' ∨ t.quote :: t.inner <+: m := by
  cases m with
  | nil => exact .inl ⟨rfl, (ht.eq_of_chars_append ht' h).1⟩
  | cons c m =>
    rw [Token.chars_append, Token.chars_append, List.cons_append] at h
    obtain ⟨rfl, he⟩ := List.cons.inj h
    obtain ⟨k, rfl⟩ := isPrefix_of_plain ht.plain_inner ht'.quote he
    exact .inr ⟨k, rfl⟩

theorem Pin.StandsIn.eq_or_later {p p' : Pin} {before m s s' : List Char} (hp : p.token.Grammatical)
    (hp' : p'.token.Grammatical) (hb : byteLength before = p.offset)
    (hb' : byteLength (before ++ m) = p'.offset)
    (h : p.token.chars ++ s = m ++ (p'.token.chars ++ s')) :
    p = p' ∨ p.offset + p.length ≤ p'.offset + 1 := by
  rcases hp.prefix_of_later hp' h with ⟨rfl, ht⟩ | hm
  · left
    rw [List.append_nil] at hb'
    cases p
    cases p'
    simp_all
  · right
    have hl := byteLength_mono hm
    rw [byteLength_append] at hb'
    rw [p.length_eq hp]
    omega

/-- Two tokens of a text share at most a quotation mark. -/
theorem Pin.StandsIn.apart {p p' : Pin} {s : List Char} (hp : p.token.Grammatical)
    (hp' : p'.token.Grammatical) (h : p.StandsIn s) (h' : p'.StandsIn s) :
    p = p' ∨ p.offset + p.length ≤ p'.offset + 1 ∨ p'.offset + p'.length ≤ p.offset + 1 := by
  obtain ⟨before, after, rfl, hb⟩ := h
  obtain ⟨before', after', he, hb'⟩ := h'
  rcases List.append_eq_append_iff.1 he with ⟨m, rfl, hm⟩ | ⟨m, rfl, hm⟩
  · rcases Pin.StandsIn.eq_or_later hp hp' hb hb' hm with h | h
    · exact .inl h
    · exact .inr (.inl h)
  · rcases Pin.StandsIn.eq_or_later hp' hp hb' hb hm with h | h
    · exact .inl h.symm
    · exact .inr (.inr h)

end RecipePins
