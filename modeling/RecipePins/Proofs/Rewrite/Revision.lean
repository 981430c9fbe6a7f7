import RecipePins.Rewrite.Substitute
import RecipePins.Proofs.Pin.Found

/-!
# Revising the cells of a text

Replacing every occurrence of a token revises the cells at which it opens, except that of two equal
tokens which share a mark only the first is replaced. Several replacements, one after the other on
what the ones before have left, come to one revision of the cells, provided that no replacement
writes a token which another one asks for.
-/
namespace RecipePins
open Text

/-- The change made where a token opens; `last` is the token changed at the cell before. -/
def changeAt (asked : Token → Option String) (last o : Option Token) : Option Change :=
  if o = last then none else o.bind fun t => (asked t).map (Change.mk t)

/-- The changes made at the cells at which some tokens open. -/
def revisions (asked : Token → Option String) (last : Option Token) :
    List (Option Token) → List (Option Change)
  | [] => []
  | o :: os => changeAt asked last o :: revisions asked ((changeAt asked last o).map Change.token) os

def Cell.revise (a : Cell) : Option Change → Cell
  | none => a
  | some c => { a with inner := (c.token.withVersion c.version).inner }

def revised (asked : Token → Option String) (last : Option Token) (cs : List Cell) : List Cell :=
  List.zipWith Cell.revise cs (revisions asked last (spots cs))

/-- The token that a change leaves, if its version is in the grammar of tokens. -/
def Change.result? (c : Change) : Option Token :=
  if isPinWord c.version.toList then some (c.token.withVersion c.version) else none

def askOne (t : Token) (version : String) (u : Token) : Option String :=
  if u = t then some version else none

variable {asked : Token → Option String} {last : Option Token} {cs : List Cell}

theorem revised_cons (asked : Token → Option String) (last : Option Token) (a : Cell)
    (cs : List Cell) :
    revised asked last (a :: cs) = a.revise (changeAt asked last (opened (a :: cs))) ::
      revised asked ((changeAt asked last (opened (a :: cs))).map Change.token) cs := rfl

theorem changeAt_none (asked : Token → Option String) (last : Option Token) :
    changeAt asked last none = none := by
  unfold changeAt
  split <;> rfl

theorem revised_cons_of_closed {a : Cell} (h : opened (a :: cs) = none) :
    revised asked last (a :: cs) = a :: revised asked none cs := by
  rw [revised_cons, h, changeAt_none]
  rfl

theorem changeAt_eq_some_iff {o : Option Token} {c : Change} :
    changeAt asked last o = some c ↔
      o = some c.token ∧ last ≠ some c.token ∧ asked c.token = some c.version := by
  rw [changeAt]
  constructor
  · intro h
    split at h
    · cases h
    · next hl =>
      obtain ⟨t, rfl, h⟩ := Option.bind_eq_some_iff.1 h
      obtain ⟨v, hv, rfl⟩ := Option.map_eq_some_iff.1 h
      exact ⟨rfl, Ne.symm hl, hv⟩
  · rintro ⟨rfl, hl, ha⟩
    rw [if_neg (Ne.symm hl)]
    simp [ha]

theorem head?_revised (asked : Token → Option String) (last : Option Token) (cs : List Cell) :
    (revised asked last cs).head?.map Cell.quote = cs.head?.map Cell.quote := by
  cases cs with
  | nil => rfl
  | cons a cs =>
    rw [revised_cons]
    cases changeAt asked last (opened (a :: cs)) <;> rfl

theorem proper_revised (last : Option Token) (hp : ∀ t v, asked t = some v → Plain v.toList)
    (h : ∀ a ∈ cs, a.Proper) : ∀ a ∈ revised asked last cs, a.Proper := by
  induction cs generalizing last with
  | nil => exact h
  | cons a cs ih =>
    obtain ⟨ha, hcs⟩ := List.forall_mem_cons.1 h
    rw [revised_cons]
    refine List.forall_mem_cons.2 ⟨?_, ih _ hcs⟩
    cases hc : changeAt asked last (opened (a :: cs)) with
    | none => exact ha
    | some c =>
      obtain ⟨ho, -, hv⟩ := changeAt_eq_some_iff.1 hc
      refine ⟨ha.quote, plain_append.2 ⟨?_, plain_cons.2 ⟨isPinQuote_slash, hp _ _ hv⟩⟩⟩
      exact plain_of_isPinWord (grammatical_of_opened ho).name

/-- Name and version are read off from what stands between the marks, if the version is a word. -/
theorem Token.Grammatical.inner_eq_iff {t u : Token} {v : String} (ht : t.Grammatical)
    (hu : u.Grammatical) (hq : u.quote = t.quote) :
    (t.withVersion v).inner = u.inner ↔ u = t.withVersion v := by
  constructor
  · intro h
    have hn := congrArg (List.takeWhile isPinChar) h
    have hd := congrArg (List.dropWhile isPinChar) h
    simp only [Token.inner, Token.withVersion] at hn hd
    rw [takeWhile_word (isPinWord_iff.1 ht.name).2 isPinChar_slash,
      takeWhile_word (isPinWord_iff.1 hu.name).2 isPinChar_slash] at hn
    rw [dropWhile_word (isPinWord_iff.1 ht.name).2 isPinChar_slash,
      dropWhile_word (isPinWord_iff.1 hu.name).2 isPinChar_slash] at hd
    obtain ⟨q, n, v'⟩ := u
    obtain rfl := String.toList_inj.1 hn
    obtain rfl := String.toList_inj.1 (List.cons.inj hd).2
    obtain rfl := hq
    rfl
  · rintro rfl
    rfl

/-- What opens at a cell that has been changed is what the change leaves. -/
theorem opened_changed {a : Cell} {cs' : List Cell} {c : Change} (hp : Plain c.version.toList)
    (h : ∀ b ∈ a :: cs, b.Proper) (hcs : ∀ b ∈ cs', b.Proper)
    (hq : cs'.head?.map Cell.quote = cs.head?.map Cell.quote) (ho : opened (a :: cs) = some c.token) :
    opened (a.revise (some c) :: cs') = c.result? := by
  obtain ⟨hg, rfl, hn⟩ := (opened_cons_eq_some_iff h).1 ho
  have hproper : ∀ b ∈ Cell.revise ⟨c.token.quote, c.token.inner⟩ (some c) :: cs', b.Proper :=
    List.forall_mem_cons.2 ⟨⟨hg.quote, plain_append.2 ⟨plain_of_isPinWord hg.name,
      plain_cons.2 ⟨isPinQuote_slash, hp⟩⟩⟩, hcs⟩
  apply Option.ext
  intro u
  rw [opened_cons_eq_some_iff hproper, hq, hn, Change.result?]
  constructor
  · rintro ⟨hu, he, hm⟩
    obtain ⟨hqu, hi⟩ := Cell.mk.inj he
    obtain rfl := (hg.inner_eq_iff hu hqu.symm).1 hi
    exact if_pos hu.version
  · intro hr
    split at hr
    · next hv =>
      obtain rfl := Option.some.inj hr
      exact ⟨⟨hg.quote, hg.name, hv⟩, rfl, rfl⟩
    · cases hr

theorem opened_congr {a : Cell} {cs' : List Cell} (h : ∀ b ∈ a :: cs, b.Proper)
    (hcs : ∀ b ∈ cs', b.Proper) (hq : cs'.head?.map Cell.quote = cs.head?.map Cell.quote) :
    opened (a :: cs') = opened (a :: cs) := by
  apply Option.ext
  intro u
  rw [opened_cons_eq_some_iff h, opened_cons_eq_some_iff
    (List.forall_mem_cons.2 ⟨h a (by simp), hcs⟩), hq]

theorem askOne_eq_some_iff {t u : Token} {v x : String} :
    askOne t v u = some x ↔ u = t ∧ x = v := by
  rw [askOne]
  split
  · next h => simp [h, eq_comm]
  · next h => simp [h]

/-- Asked for one token, a change is made where it opens and was not changed just before. -/
theorem changeAt_askOne (t : Token) (v : String) (last o : Option Token) :
    changeAt (askOne t v) last o = if o = some t ∧ last ≠ some t then some ⟨t, v⟩ else none := by
  apply Option.ext
  intro c
  rw [changeAt_eq_some_iff, askOne_eq_some_iff]
  constructor
  · rintro ⟨rfl, hl, rfl, rfl⟩
    exact if_pos ⟨rfl, hl⟩
  · intro h
    split at h
    · next ht =>
      obtain rfl := Option.some.inj h
      exact ⟨ht.1, ht.2, rfl, rfl⟩
    · cases h

theorem replaceAll_append_self {old : List Char} (new s : List Char) (h : old ≠ []) :
    replaceAll old new (old ++ s) = new ++ replaceAll old new s := by
  cases old with
  | nil => exact absurd rfl h
  | cons q old =>
    rw [List.cons_append, replaceAll]
    simp

theorem replaceAll_skip {old : List Char} (new : List Char) {c : Char} {s : List Char}
    (h : ¬ old <+: c :: s) : replaceAll old new (c :: s) = c :: replaceAll old new s := by
  rw [replaceAll, if_neg (by rwa [List.isPrefixOf_iff_prefix])]

theorem replaceAll_plain_append {t : Token} (ht : t.Grammatical) (new : List Char) {l s : List Char}
    (hl : Plain l) : replaceAll t.chars new (l ++ s) = l ++ replaceAll t.chars new s := by
  induction l with
  | nil => rfl
  | cons c l ih =>
    obtain ⟨hc, hl⟩ := plain_cons.1 hl
    rw [List.cons_append, replaceAll_skip, ih hl, List.cons_append]
    rw [Token.chars_eq_inner, List.cons_prefix_cons]
    rintro ⟨rfl, -⟩
    rw [ht.quote] at hc
    cases hc

/-- Where a token does not open, it is not written either. -/
theorem not_prefix_of_opened_ne {t : Token} (ht : t.Grammatical) (h : opened cs ≠ some t) :
    ¬ t.chars <+: joinCells cs := by
  rintro ⟨r, hr⟩
  apply h
  rw [opened, ← hr, ht.token?_chars]
  rfl

theorem opened_eq_some_split {t : Token} (h : ∀ a ∈ cs, a.Proper) (ho : opened cs = some t) :
    ∃ b rest, cs = ⟨t.quote, t.inner⟩ :: b :: rest ∧ b.quote = t.quote := by
  cases cs with
  | nil => cases ho
  | cons a cs =>
    obtain ⟨-, rfl, hn⟩ := (opened_cons_eq_some_iff h).1 ho
    cases cs with
    | nil => cases hn
    | cons b rest => exact ⟨b, rest, rfl, by simpa using hn⟩

/-- Replacing one token everywhere is one revision of the cells. After a replaced token its closing
mark is taken, so that an equal token which opens there stays. -/
theorem replaceAll_joinCells {t : Token} (ht : t.Grammatical) (v : String)
    (h : ∀ a ∈ cs, a.Proper) :
    replaceAll t.chars (t.withVersion v).chars (joinCells cs) =
        joinCells (revised (askOne t v) none cs) ∧
      ∀ a rest, cs = a :: rest →
        replaceAll t.chars (t.withVersion v).chars (a.inner ++ joinCells rest) =
          a.inner ++ joinCells (revised (askOne t v) none rest) := by
  induction cs with
  | nil => exact ⟨by rw [joinCells, List.flatMap_nil, replaceAll]; rfl, by simp⟩
  | cons a cs ih =>
    obtain ⟨ha, hcs⟩ := List.forall_mem_cons.1 h
    have hskip : replaceAll t.chars (t.withVersion v).chars (a.inner ++ joinCells cs) =
        a.inner ++ joinCells (revised (askOne t v) none cs) := by
      rw [replaceAll_plain_append ht _ ha.inner, (ih hcs).1]
    refine ⟨?_, ?_⟩
    · rw [revised_cons, changeAt_askOne]
      by_cases ho : opened (a :: cs) = some t
      · obtain ⟨b, rest, he, hb⟩ := opened_eq_some_split h ho
        obtain ⟨rfl, rfl⟩ := List.cons.inj he
        rw [if_pos ⟨ho, by simp⟩, Option.map_some, revised_cons, changeAt_askOne,
          if_neg (by simp), joinCells_token rest hb, replaceAll_append_self _ _ (by simp [Token.chars]),
          (ih hcs).2 b rest rfl]
        exact (joinCells_token (t := t.withVersion v) _ hb).symm
      · rw [if_neg (fun hc => ho hc.1), joinCells_cons, replaceAll_skip, hskip]
        · exact (joinCells_cons _ _).symm
        · rw [← joinCells_cons]
          exact not_prefix_of_opened_ne ht ho
    · rintro a' rest he
      obtain ⟨rfl, rfl⟩ := List.cons.inj he
      exact hskip

end RecipePins
