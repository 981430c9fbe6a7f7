import RecipePins.Pin.Scan

/-!
# The grammar of pin tokens

A token is two words of pin characters around a slash, between two equal quotation marks. What stands
between the marks holds no quotation mark, so two tokens of one text share at most a mark.
-/
namespace RecipePins

/-- Text without quotation marks. -/
def Plain (s : List Char) : Prop :=
  ∀ c ∈ s, isPinQuote c = false

instance (s : List Char) : Decidable (Plain s) :=
  decidable_of_iff ((s.all fun c => !isPinQuote c) = true) (by simp [Plain])

/-- A non-empty text of pin characters. -/
def isPinWord (s : List Char) : Bool :=
  !s.isEmpty && s.all isPinChar

namespace Token

def inner (t : Token) : List Char :=
  t.name.toList ++ '/' :: t.version.toList

/-- The form of the tokens that a scan looks for. -/
structure Grammatical (t : Token) : Prop where
  quote : isPinQuote t.quote = true
  name : isPinWord t.name.toList = true
  version : isPinWord t.version.toList = true

theorem chars_eq_inner (t : Token) : t.chars = t.quote :: (t.inner ++ [t.quote]) := by
  simp [chars, inner]

theorem chars_append (t : Token) (s : List Char) :
    t.chars ++ s = t.quote :: (t.inner ++ t.quote :: s) := by
  simp [chars_eq_inner]

end Token

theorem isPinChar_slash : isPinChar '/' = false := by decide

theorem isPinQuote_slash : isPinQuote '/' = false := by decide

theorem isPinChar_of_isPinQuote {c : Char} (h : isPinQuote c = true) : isPinChar c = false := by
  rw [isPinQuote, Bool.or_eq_true, beq_iff_eq, beq_iff_eq] at h
  rcases h with rfl | rfl <;> decide

theorem isPinWord_iff {s : List Char} :
    isPinWord s = true ↔ s ≠ [] ∧ ∀ c ∈ s, isPinChar c = true := by
  simp [isPinWord]

theorem plain_cons {c : Char} {s : List Char} :
    Plain (c :: s) ↔ isPinQuote c = false ∧ Plain s := by
  simp [Plain]

theorem plain_append {s t : List Char} : Plain (s ++ t) ↔ Plain s ∧ Plain t := by
  simp only [Plain, List.mem_append, or_imp, forall_and]

theorem plain_of_isPinWord {s : List Char} (h : isPinWord s = true) : Plain s := by
  intro c hc
  have hp := (isPinWord_iff.1 h).2 c hc
  cases hq : isPinQuote c with
  | false => rfl
  | true =>
    rw [isPinChar_of_isPinQuote hq] at hp
    cases hp

theorem Token.Grammatical.plain_inner {t : Token} (h : t.Grammatical) : Plain t.inner :=
  plain_append.2 ⟨plain_of_isPinWord h.name,
    plain_cons.2 ⟨isPinQuote_slash, plain_of_isPinWord h.version⟩⟩

/-- A text of pin characters is read to its end, if what follows is not one. -/
theorem takeWhile_word {s rest : List Char} {c : Char} (h : ∀ x ∈ s, isPinChar x = true)
    (hc : isPinChar c = false) : (s ++ c :: rest).takeWhile isPinChar = s := by
  rw [List.takeWhile_append_of_pos h, List.takeWhile_cons_of_neg (by simp [hc]), List.append_nil]

theorem dropWhile_word {s rest : List Char} {c : Char} (h : ∀ x ∈ s, isPinChar x = true)
    (hc : isPinChar c = false) : (s ++ c :: rest).dropWhile isPinChar = c :: rest := by
  rw [List.dropWhile_append_of_pos h, List.dropWhile_cons_of_neg (by simp [hc])]

theorem isPinWord_takeWhile {s : List Char} (h : s.takeWhile isPinChar ≠ []) :
    isPinWord (s.takeWhile isPinChar) = true :=
  isPinWord_iff.2 ⟨h, fun _ hc => List.all_eq_true.1 List.all_takeWhile _ hc⟩

theorem closing?_eq_some_iff {quote : Char} {s version rest : List Char}
    (hq : isPinQuote quote = true) :
    closing? quote s = some (version, rest) ↔
      isPinWord version = true ∧ s = version ++ quote :: rest := by
  constructor
  · intro h
    rw [closing?] at h
    split at h
    · next c tail hd =>
      split at h
      · next hc =>
        obtain ⟨rfl, hw⟩ := hc
        obtain ⟨rfl, rfl⟩ := Prod.mk.inj (Option.some.inj h)
        exact ⟨isPinWord_takeWhile hw, by rw [← hd, List.takeWhile_append_dropWhile]⟩
      · cases h
    · cases h
  · rintro ⟨hv, rfl⟩
    obtain ⟨hne, hall⟩ := isPinWord_iff.1 hv
    have hn := isPinChar_of_isPinQuote hq
    simp [closing?, takeWhile_word hall hn, dropWhile_word hall hn, hne]

/-- A token is found at the start of a text exactly if a grammatical token is written there. -/
theorem token?_eq_some_iff {s rest : List Char} {t : Token} :
    token? s = some (t, rest) ↔ t.Grammatical ∧ s = t.chars ++ rest := by
  constructor
  · intro h
    cases s with
    | nil => cases h
    | cons quote s =>
      rw [token?] at h
      split at h
      · next hw =>
        split at h
        · next after hd =>
          obtain ⟨⟨version, r⟩, hc, he⟩ := Option.map_eq_some_iff.1 h
          obtain ⟨rfl, rfl⟩ := Prod.mk.inj he
          obtain ⟨hv, rfl⟩ := (closing?_eq_some_iff hw.1).1 hc
          have hs := List.takeWhile_append_dropWhile (p := isPinChar) (l := s)
          rw [hd] at hs
          refine ⟨⟨hw.1, ?_, ?_⟩, ?_⟩
          · simpa using isPinWord_takeWhile hw.2
          · simpa using hv
          · simp [Token.chars_append, Token.inner, hs]
        · cases h
      · cases h
  · rintro ⟨ht, rfl⟩
    obtain ⟨hne, hall⟩ := isPinWord_iff.1 ht.name
    have hc := (closing?_eq_some_iff ht.quote).2 ⟨ht.version, Eq.refl (t.version.toList ++ t.quote :: rest)⟩
    have hsplit : t.inner ++ t.quote :: rest =
        t.name.toList ++ '/' :: (t.version.toList ++ t.quote :: rest) := by simp [Token.inner]
    rw [Token.chars_append, token?, hsplit, takeWhile_word hall isPinChar_slash,
      dropWhile_word hall isPinChar_slash]
    simp [ht.quote, hne, hc]

theorem Token.Grammatical.token?_chars {t : Token} (ht : t.Grammatical) (rest : List Char) :
    token? (t.chars ++ rest) = some (t, rest) :=
  token?_eq_some_iff.2 ⟨ht, rfl⟩

end RecipePins
