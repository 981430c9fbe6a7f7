import RecipePins.Proofs.Rewrite.Revision

/-!
# Changes one after the other and all at once

The changes of a rewrite are made one after the other, each on the whole text that the ones before
have left. Here they are shown to be one revision of the cells of the original text: no change
writes, removes or alters a token that another change asks for.
-/
namespace RecipePins
open Text

/-- Asks for one more token. -/
def askAlso (asked : Token → Option String) (t : Token) (version : String) (u : Token) :
    Option String :=
  if u = t then some version else asked u

/-- Asks for the update of some tokens only. -/
def askFor (update : Token → Option String) (tokens : List Token) (t : Token) : Option String :=
  if t ∈ tokens then update t else none

/-- New versions of tokens that a rewrite can make: they hold no quotation mark, and a token that an
update leaves needs no update itself. -/
structure Stable (update : Token → Option String) : Prop where
  plain : ∀ t v, update t = some v → Plain v.toList
  settled : ∀ t v, update t = some v → isPinWord v.toList = true → update (t.withVersion v) = none

variable {asked update : Token → Option String} {cs : List Cell} {t : Token} {v : String}

theorem changeAt_none_of_asked {last : Option Token} (h : asked t = none) :
    changeAt asked last (some t) = none := by
  rw [changeAt]
  split
  · rfl
  · simp [h]

theorem changeAt_askAlso {last last' o : Option Token} (ho : o ≠ some t)
    (hl : last' = last ∨ last = none ∧ last' = some t) :
    changeAt (askAlso asked t v) last' o = changeAt asked last o := by
  cases o with
  | none =>
    unfold changeAt
    split <;> split <;> rfl
  | some u =>
    have hu : u ≠ t := fun h => ho (congrArg some h)
    rcases hl with rfl | ⟨rfl, rfl⟩
    · simp [changeAt, askAlso, hu]
    · simp [changeAt, askAlso, hu]

/-- A token that no change asks for or leaves opens after the changes where it did before. -/
theorem opened_revised_iff {a : Cell} (last : Option Token)
    (hp : ∀ u y, asked u = some y → Plain y.toList) (ht : asked t = none)
    (hs : ∀ u y, asked u = some y → isPinWord y.toList = true → u.withVersion y ≠ t)
    (h : ∀ b ∈ a :: cs, b.Proper) :
    opened (revised asked last (a :: cs)) = some t ↔ opened (a :: cs) = some t := by
  rw [revised_cons]
  have hr := proper_revised ((changeAt asked last (opened (a :: cs))).map Change.token) hp
    (List.forall_mem_cons.1 h).2
  have hq := head?_revised asked ((changeAt asked last (opened (a :: cs))).map Change.token) cs
  cases hc : changeAt asked last (opened (a :: cs)) with
  | none =>
    rw [hc] at hr hq
    rw [Cell.revise, opened_congr h hr hq]
  | some c =>
    rw [hc] at hr hq
    obtain ⟨ho, -, hv⟩ := changeAt_eq_some_iff.1 hc
    rw [opened_changed (hp _ _ hv) h hr hq ho, ho]
    constructor
    · intro hres
      rw [Change.result?] at hres
      split at hres
      · next hw => exact absurd (Option.some.inj hres) (hs _ _ hv hw)
      · cases hres
    · intro hres
      rw [Option.some.inj hres, ht] at hv
      cases hv

/-- One more change after some others is made as if all were asked for together. -/
theorem revised_askOne {k l m : Option Token}
    (hp : ∀ u y, asked u = some y → Plain y.toList) (ht : asked t = none)
    (hs : ∀ u y, asked u = some y → isPinWord y.toList = true → u.withVersion y ≠ t)
    (h : ∀ a ∈ cs, a.Proper)
    (hl : k ≠ some t ∧ l ≠ some t ∧ m = l ∨ k = some t ∧ l = none ∧ m = some t) :
    revised (askOne t v) k (revised asked l cs) = revised (askAlso asked t v) m cs := by
  -- `k`, `l` and `m` are the tokens changed at the cell before: by the new change on what the others
  -- have left, by the others, and by all of them together. They tally except right behind `t`.
  induction cs generalizing k l m with
  | nil => rfl
  | cons a cs ih =>
    obtain ⟨ha, hcs⟩ := List.forall_mem_cons.1 h
    have ho := opened_revised_iff l hp ht hs h
    rw [revised_cons asked] at ho ⊢
    rw [revised_cons, revised_cons, changeAt_askOne]
    by_cases hopen : opened (a :: cs) = some t
    · rw [hopen, changeAt_none_of_asked ht] at ho ⊢
      rw [ho.2 rfl]
      rcases hl with ⟨h₁, h₂, rfl⟩ | ⟨rfl, rfl, rfl⟩
      · have hc : changeAt (askAlso asked t v) m (some t) = some ⟨t, v⟩ :=
          changeAt_eq_some_iff.2 ⟨rfl, h₂, if_pos rfl⟩
        rw [if_pos ⟨rfl, h₁⟩, hc]
        exact congrArg _ (ih hcs (.inr ⟨rfl, rfl, rfl⟩))
      · have hc : changeAt (askAlso asked t v) (some t) (some t) = none := if_pos rfl
        rw [if_neg (by simp), hc]
        exact congrArg _ (ih hcs (.inl ⟨by simp, by simp, rfl⟩))
    · have hc : changeAt (askAlso asked t v) m (opened (a :: cs)) =
          changeAt asked l (opened (a :: cs)) := by
        apply changeAt_askAlso hopen
        rcases hl with ⟨-, -, rfl⟩ | ⟨-, rfl, rfl⟩
        · exact .inl rfl
        · exact .inr ⟨rfl, rfl⟩
      have hn : (changeAt asked l (opened (a :: cs))).map Change.token ≠ some t := by
        intro hm
        obtain ⟨c, hat, rfl⟩ := Option.map_eq_some_iff.1 hm
        exact hopen (changeAt_eq_some_iff.1 hat).1
      rw [if_neg (fun hw => hopen (ho.1 hw.1)), hc]
      exact congrArg _ (ih hcs (.inl ⟨by simp, hn, rfl⟩))

theorem askFor_eq_some_iff {tokens : List Token} :
    askFor update tokens t = some v ↔ t ∈ tokens ∧ update t = some v := by
  rw [askFor]
  split
  · next h => simp [h]
  · next h => simp [h]

theorem askFor_congr {tokens tokens' : List Token} (h : ∀ t, t ∈ tokens ↔ t ∈ tokens') :
    askFor update tokens = askFor update tokens' := by
  funext t
  simp only [askFor, h]

theorem askAlso_askFor {tokens : List Token} (h : update t = some v) :
    askAlso (askFor update tokens) t v = askFor update (t :: tokens) := by
  funext u
  by_cases hu : u = t
  · subst u
    simp [askAlso, askFor, h]
  · simp [askAlso, askFor, hu]

/-- Before anything is asked for, the cells are as they were. -/
theorem revised_askFor_nil (last : Option Token) : revised (askFor update []) last cs = cs := by
  induction cs generalizing last with
  | nil => rfl
  | cons a cs ih =>
    have hc : changeAt (askFor update []) last (opened (a :: cs)) = none := by
      unfold changeAt
      split
      · rfl
      · cases opened (a :: cs) <;> rfl
    rw [revised_cons, hc, ih]
    rfl

/-- A change is one revision of the cells behind the lead of a text. -/
theorem Change.apply_append {c : Change} {l : List Char} (hc : c.token.Grammatical) (hl : Plain l)
    (h : ∀ a ∈ cs, a.Proper) : c.apply (l ++ joinCells cs) =
      l ++ joinCells (revised (askOne c.token c.version) none cs) := by
  rw [Change.apply, replaceAll_plain_append hc _ hl, (replaceAll_joinCells hc c.version h).1]

theorem Stable.askFor_ne (hu : Stable update) {tokens : List Token} {u : Token} {y : String}
    (ht : update t = some v) (hy : askFor update tokens u = some y)
    (hw : isPinWord y.toList = true) : u.withVersion y ≠ t := by
  rintro rfl
  rw [hu.settled u y (askFor_eq_some_iff.1 hy).2 hw] at ht
  cases ht

/-- The changes of a rewrite, one after the other, are one revision of the cells. What is asked for
are the updates of the tokens already seen and of those among the changes. -/
theorem foldl_distinct (hu : Stable update) {changes : List Change} {tokens : List Token}
    {l : List Char} (hl : Plain l) (h : ∀ a ∈ cs, a.Proper) (ht : ∀ t ∈ tokens, t.Grammatical)
    (hc : ∀ c ∈ changes, c.token.Grammatical ∧ update c.token = some c.version) :
    (Change.distinct (tokens.map Token.chars) changes).foldl (fun s c => c.apply s)
        (l ++ joinCells (revised (askFor update tokens) none cs)) =
      l ++ joinCells (revised (askFor update (changes.map Change.token ++ tokens)) none cs) := by
  induction changes generalizing tokens with
  | nil => rfl
  | cons c changes ih =>
    obtain ⟨⟨hg, hv⟩, hrest⟩ := List.forall_mem_cons.1 hc
    rw [Change.distinct]
    by_cases hm : c.token ∈ tokens
    · have hseen : (tokens.map Token.chars).contains c.token.chars = true :=
        List.contains_iff_mem.2 (List.mem_map_of_mem hm)
      rw [if_pos hseen, ih ht hrest]
      refine congrArg (fun f => l ++ joinCells (revised f none cs)) (askFor_congr fun t => ?_)
      simp only [List.map_cons, List.cons_append, List.mem_cons, List.mem_append]
      exact ⟨.inr, fun hx => hx.elim (fun he => .inr (he ▸ hm)) id⟩
    · have hseen : ¬ (tokens.map Token.chars).contains c.token.chars = true := by
        rw [List.contains_iff_mem, List.mem_map]
        rintro ⟨t, hts, he⟩
        exact hm ((ht t hts).eq_of_chars hg he ▸ hts)
      have hplain (u : Token) (y : String) (hy : askFor update tokens u = some y) : Plain y.toList :=
        hu.plain u y (askFor_eq_some_iff.1 hy).2
      have hnone : askFor update tokens c.token = none := if_neg hm
      rw [if_neg hseen, List.foldl_cons, Change.apply_append hg hl (proper_revised _ hplain h),
        revised_askOne (m := none) hplain hnone (fun u y hy hw => hu.askFor_ne hv hy hw) h
          (.inl ⟨by simp, by simp, rfl⟩), askAlso_askFor hv, ← List.map_cons,
        ih (List.forall_mem_cons.2 ⟨hg, ht⟩) hrest]
      refine congrArg (fun f => l ++ joinCells (revised f none cs)) (askFor_congr fun t => ?_)
      simp only [List.map_cons, List.cons_append, List.mem_cons, List.mem_append]
      exact or_left_comm

/-- A text after the changes that some outcomes ask for is its lead and its revised cells. -/
theorem applyOutcomes_eq (hu : Stable update) {outcomes : List PinOutcome} (text : String)
    (hc : ∀ c ∈ outcomes.filterMap Change.ofOutcome?,
      c.token.Grammatical ∧ update c.token = some c.version) :
    applyOutcomes outcomes text = String.ofList (lead text.toList ++ joinCells (revised
      (askFor update ((outcomes.filterMap Change.ofOutcome?).map Change.token)) none
      (cells text.toList))) := by
  have hnil : ∀ t ∈ ([] : List Token), t.Grammatical := by simp
  have hf := foldl_distinct hu (plain_lead text.toList) (proper_cells text.toList) hnil hc
  rw [revised_askFor_nil, lead_append_joinCells, List.map_nil, List.append_nil] at hf
  rw [applyOutcomes, hf]

end RecipePins
