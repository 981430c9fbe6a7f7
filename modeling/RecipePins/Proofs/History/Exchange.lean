import RecipePins.Proofs.History.Blur

/-!
# One timestamp for another

A line that is read is read with another timestamp anywhere on it as well. As no two timestamps overlap, what
is read is the timestamp that was read before, or the new one if that stands in its place.
-/
namespace RecipePins.History

namespace StampParts

variable (p : StampParts)

/-- What goes up to a space ends in front of a timestamp or with the date of it. -/
theorem split_at_space {a s x y : List Char} (ha : ' ' ∉ a) (h : a ++ ' ' :: s = x ++ (p.text ++ y)) :
    (∃ z, x = a ++ ' ' :: z ∧ s = z ++ (p.text ++ y)) ∨
      a = x ++ p.date ∧ s = p.clock ++ ' ' :: (p.zone ++ y) := by
  have htext : p.text ++ y = p.date ++ ' ' :: (p.clock ++ ' ' :: (p.zone ++ y)) := by simp [text]
  rcases List.append_eq_append_iff.1 h with ⟨z, rfl, hz⟩ | ⟨z, rfl, hz⟩
  · left
    cases z with
    | nil =>
      rw [List.nil_append, htext] at hz
      exact absurd (Text.mem_of_cons_eq_append p.date_ne hz) p.space_not_mem_date
    | cons c z =>
      obtain ⟨rfl, rfl⟩ := List.cons.inj hz
      exact ⟨z, rfl, rfl⟩
  · right
    rw [htext] at hz
    have hz' : ' ' ∉ z := fun hm => ha (List.mem_append_right _ hm)
    obtain ⟨rfl, rfl⟩ := Text.eq_of_append_cons_eq p.space_not_mem_date hz' hz
    exact ⟨rfl, rfl⟩

theorem split_at_paren {s x y : List Char} (h : '(' :: s = x ++ (p.text ++ y)) :
    ∃ z, x = '(' :: z ∧ s = z ++ (p.text ++ y) := by
  cases x with
  | nil => exact absurd (Text.mem_of_cons_eq_append p.text_ne h) (p.not_mem_text rfl (by decide))
  | cons c x =>
    obtain ⟨rfl, rfl⟩ := List.cons.inj h
    exact ⟨x, rfl, rfl⟩

end StampParts

/-- The head and the parenthesis stand in front of any timestamp on the line. -/
theorem IsHead.split {head s x y : List Char} (hh : IsHead head) (p : StampParts)
    (h : head ++ '(' :: s = x ++ (p.text ++ y)) : ∃ z, x = head ++ '(' :: z ∧ s = z ++ (p.text ++ y) := by
  have revision {word s : List Char} (hw : IsRevision word) (h : word ++ ' ' :: s = x ++ (p.text ++ y)) :
      ∃ z, x = word ++ ' ' :: z ∧ s = z ++ (p.text ++ y) := by
    obtain ⟨boundary, name, -, hname, rfl⟩ := hw
    have hword {c : Char} (hc : c ≠ '^') (hn : Text.isWord c = false) :
        c ∉ (if boundary then ['^'] else []) ++ name := by
      intro hm
      rcases List.mem_append.1 hm with hm | hm
      · split at hm
        · exact hc (List.mem_singleton.1 hm)
        · cases hm
      · rw [hname c hm] at hn
        cases hn
    rcases p.split_at_space (hword (by decide) (by decide)) h with hz | ⟨hw, -⟩
    · exact hz
    · exact absurd (hw ▸ List.mem_append_right x p.hyphen_mem_date) (hword (by decide) (by decide))
  cases hh with
  | revision hword =>
    rw [List.append_assoc, List.singleton_append] at h
    obtain ⟨z, rfl, hz⟩ := revision hword h
    obtain ⟨z, rfl, rfl⟩ := p.split_at_paren hz
    exact ⟨z, by simp, rfl⟩
  | @file word file hword hne hplain =>
    have hspace : ' ' ∉ file := fun hm => by cases hplain ' ' hm
    rw [List.append_assoc, List.cons_append, List.append_assoc, List.singleton_append] at h
    obtain ⟨z, rfl, hz⟩ := revision hword h
    rcases p.split_at_space hspace hz with ⟨z, rfl, hparen⟩ | ⟨-, hclock⟩
    · obtain ⟨z, rfl, rfl⟩ := p.split_at_paren hparen
      exact ⟨z, by simp, rfl⟩
    · have hparen : '(' ∈ p.text := by
        simp [StampParts.text, Text.mem_of_cons_eq_append p.clock_ne hclock]
      exact absurd hparen (p.not_mem_text rfl (by decide))

/-- What has the shape of a timestamp, with the end of a line behind it, is apart from a timestamp that
follows on the line. -/
theorem shaped?_apart (p : StampParts) {x y stamp back version : List Char} (hx : x ≠ [])
    (hshape : Entry.shaped? Entry.stampShape (x ++ (p.text ++ y)) = some (stamp, back))
    (hend : lineEnd? back = some version) : ∃ z, x = stamp ++ z ∧ back = z ++ (p.text ++ y) := by
  obtain ⟨heq, hf⟩ := shaped?_eq_some hshape
  rcases List.append_eq_append_iff.1 heq with ⟨z, hstamp, -⟩ | hz
  · have hlength : stamp.length = 25 := hf.length_eq.symm
    have hp : p.text.length = 25 := p.text_fits.length_eq.symm
    have hn : x.length < 26 := by
      rw [hstamp, List.length_append] at hlength
      omega
    obtain ⟨rest, rfl⟩ := lineEnd?_head? hend
    have hpos := List.length_pos_iff.2 hx
    have hstop : stamp ++ [' '] <+: x ++ (p.text ++ y) := ⟨rest, by simp [heq]⟩
    have hboth : x ++ p.text <+: x ++ (p.text ++ y) := ⟨y, by simp⟩
    have hprefix : stamp ++ [' '] <+: x ++ p.text := List.prefix_of_prefix_length_le hstop hboth (by
      simp only [List.length_append, List.length_singleton]
      omega)
    obtain ⟨tail, htail⟩ := hprefix
    have hdrop := congrArg (List.drop x.length) htail
    rw [List.drop_left, List.drop_append_of_le_length (by simp; omega)] at hdrop
    have hblur := congrArg (List.map blur) hdrop
    rw [List.map_append, List.map_drop, List.map_append, map_blur_of_shaped hf, p.map_blur_text] at hblur
    exact absurd ⟨_, hblur⟩ (stampBlur_apart hn hpos)
  · exact hz

/-- An entry that is read from a line is read at its place or in the place of another timestamp. -/
theorem stamped?_stamp (p q : StampParts) {c : Char} {x y stamp version : List Char}
    (h : Entry.stamped? (c :: (x ++ (p.text ++ y))) = some (stamp, version)) :
    ∃ stamp' version', Entry.stamped? (c :: (x ++ (q.text ++ y))) = some (stamp', version') ∧
      (stamp' = stamp ∨ stamp' = q.text) := by
  obtain ⟨rest, back, hblank, hshape, hend⟩ := stamped?_eq_some_iff.1 h
  have hc : Text.isBlank c = true := by
    by_contra hc
    simp [Entry.skipSome?, hc] at hblank
  have hskip (t : StampParts) : Entry.skipSome? Text.isBlank (c :: (x ++ (t.text ++ y))) =
      some (x.dropWhile Text.isBlank ++ (t.text ++ y)) := by
    rw [Entry.skipSome?, if_pos hc, t.dropWhile_text]
  obtain rfl : x.dropWhile Text.isBlank ++ (p.text ++ y) = rest := Option.some.inj ((hskip p).symm.trans hblank)
  by_cases hx : x.dropWhile Text.isBlank = []
  · rw [hx, List.nil_append, p.shaped?_text] at hshape
    obtain ⟨rfl, rfl⟩ := Prod.mk.inj (Option.some.inj hshape)
    have hq : Entry.shaped? Entry.stampShape (x.dropWhile Text.isBlank ++ (q.text ++ y)) = some (q.text, y) := by
      rw [hx, List.nil_append, q.shaped?_text]
    exact ⟨q.text, version, stamped?_eq_some_iff.2 ⟨_, y, hskip q, hq, hend⟩, .inr rfl⟩
  · obtain ⟨z, hz, rfl⟩ := shaped?_apart p hx hshape hend
    obtain ⟨version', hend'⟩ := lineEnd?_stamp p q hend
    have hq : Entry.shaped? Entry.stampShape (x.dropWhile Text.isBlank ++ (q.text ++ y)) =
        some (stamp, z ++ (q.text ++ y)) := by
      rw [hz, List.append_assoc, shaped?_append (shaped?_eq_some hshape).2]
    exact ⟨stamp, version', stamped?_eq_some_iff.2 ⟨_, _, hskip q, hq, hend'⟩, .inl rfl⟩

theorem lastStamped?_stamp (p q : StampParts) {x y stamp version : List Char} (hn : '\n' ∉ x)
    (h : Entry.lastStamped? (x ++ (p.text ++ y)) = some (stamp, version)) :
    ∃ stamp' version', Entry.lastStamped? (x ++ (q.text ++ y)) = some (stamp', version') ∧
      (stamp' = stamp ∨ stamp' = q.text) := by
  induction x generalizing p q stamp version with
  | nil =>
    rw [List.nil_append, p.lastStamped?_text_append] at h
    exact ⟨stamp, version, by rw [List.nil_append, q.lastStamped?_text_append, h], .inl rfl⟩
  | cons c x ih =>
    have hc : c ≠ '\n' := fun he => hn (he ▸ List.mem_cons_self)
    have hx : '\n' ∉ x := fun hm => hn (List.mem_cons_of_mem c hm)
    rw [List.cons_append, Entry.lastStamped?, if_neg hc] at h ⊢
    cases hp : Entry.lastStamped? (x ++ (p.text ++ y)) with
    | some z =>
      rw [hp] at h
      obtain rfl := Option.some.inj h
      obtain ⟨stamp', version', hq, hs⟩ := ih p q hx hp
      exact ⟨stamp', version', by rw [hq]; rfl, hs⟩
    | none =>
      rw [hp] at h
      -- a later entry on the other line would stand on this one too
      have hq : Entry.lastStamped? (x ++ (q.text ++ y)) = none := by
        cases hq : Entry.lastStamped? (x ++ (q.text ++ y)) with
        | none => rfl
        | some z =>
          obtain ⟨_, _, hp', -⟩ := ih q p hx hq
          rw [hp] at hp'
          cases hp'
      obtain ⟨stamp', version', hs, hstamp⟩ := stamped?_stamp p q h
      exact ⟨stamp', version', by rw [hq]; exact hs, hstamp⟩

/-- A line that is read is read with another timestamp on it as well: with the one that was read before,
or with the new one. -/
theorem columns?_stamp (p q : StampParts) {x y stamp version : List Char} (hn : '\n' ∉ x ++ y)
    (h : Entry.columns? (x ++ (p.text ++ y)) = some (stamp, version)) :
    ∃ stamp' version', Entry.columns? (x ++ (q.text ++ y)) = some (stamp', version') ∧
      (stamp' = stamp ∨ stamp' = q.text) := by
  have hline (t : StampParts) : '\n' ∉ x ++ (t.text ++ y) := by
    have ht := t.newline_not_mem_text
    simp only [List.mem_append, not_or] at hn ⊢
    exact ⟨hn.1, ht, hn.2⟩
  obtain ⟨head, c, w, hhead, heq, hw⟩ := (columns?_eq_some_iff (hline p)).1 h
  obtain ⟨z, rfl, hz⟩ := hhead.split p heq.symm
  have author : ∃ d w' stamp' version', z ++ (q.text ++ y) = d :: w' ∧
      Entry.lastStamped? w' = some (stamp', version') ∧ (stamp' = stamp ∨ stamp' = q.text) := by
    cases z with
    | nil =>
      have hc : '\n' ∉ [c] := fun hm => p.newline_not_mem_text (by
        rw [List.mem_singleton.1 hm]
        exact Text.mem_of_cons_eq_append p.text_ne hz)
      have hy : Entry.lastStamped? y = some (stamp, version) := by
        rw [← p.lastStamped?_text_append, ← List.nil_append (p.text ++ y), ← hz]
        exact lastStamped?_append hc hw
      obtain ⟨d, t, ht⟩ := List.exists_cons_of_ne_nil q.text_ne
      have hnt : '\n' ∉ t := fun hm => q.newline_not_mem_text (ht ▸ List.mem_cons_of_mem d hm)
      exact ⟨d, t ++ y, stamp, version, by simp [ht], lastStamped?_append hnt hy, .inl rfl⟩
    | cons d z =>
      obtain ⟨rfl, rfl⟩ := List.cons.inj hz
      have hz : '\n' ∉ z := fun hm => hn (by simp [hm])
      obtain ⟨stamp', version', hq, hs⟩ := lastStamped?_stamp p q hz hw
      exact ⟨c, _, stamp', version', rfl, hq, hs⟩
  obtain ⟨d, w', stamp', version', hd, hq, hs⟩ := author
  have hread : Entry.columns? ((head ++ '(' :: z) ++ (q.text ++ y)) = some (stamp', version') :=
    (columns?_eq_some_iff (hline q)).2 ⟨head, d, w', hhead, by simp [hd], hq⟩
  exact ⟨stamp', version', hread, hs⟩

end RecipePins.History
