import RecipePins.Proofs.History.Stamp

/-!
# How a line is read

A line is read if it begins with a revision, perhaps a file name, and an opening parenthesis, and if a
timestamp with the end of a line behind it stands further on, of which the last one counts. Another timestamp
in the place of that one is read in its stead.
-/
namespace RecipePins.History

def spaces (n : Nat) : List Char :=
  List.replicate n ' '

theorem spaces_succ (n : Nat) : spaces (n + 1) = ' ' :: spaces n :=
  List.replicate_succ

theorem newline_not_mem_spaces (n : Nat) : '\n' ∉ spaces n := fun hm => by
  cases List.eq_of_mem_replicate hm

theorem dropWhile_append_of_neg {p : Char → Bool} {a b : List Char} (ha : a ≠ [])
    (h : ∀ c ∈ a, p c = false) : (a ++ b).dropWhile p = a ++ b := by
  cases a with
  | nil => exact absurd rfl ha
  | cons c a => exact List.dropWhile_cons_of_neg (by simp [h c List.mem_cons_self])

theorem skipSome?_append {p : Char → Bool} {a b : List Char} (ha : a ≠ [])
    (h : ∀ c ∈ a, p c = true) (hb : b.dropWhile p = b) : Entry.skipSome? p (a ++ b) = some b := by
  cases a with
  | nil => exact absurd rfl ha
  | cons c a =>
    rw [List.cons_append, Entry.skipSome?, if_pos (h c List.mem_cons_self),
      List.dropWhile_append_of_pos fun d hd => h d (List.mem_cons_of_mem c hd), hb]

theorem eq_space_of_mem {n : Nat} {c : Char} (hc : c ∈ spaces n ++ [' ']) : c = ' ' :=
  (List.mem_append.1 hc).elim List.eq_of_mem_replicate List.mem_singleton.1

/-- More spaces are skipped like one. -/
theorem skipSome?_spaces_append {p : Char → Bool} (hp : p ' ' = true) (n : Nat) (s : List Char) :
    Entry.skipSome? p (spaces n ++ ' ' :: s) = some (s.dropWhile p) := by
  cases n with
  | zero => rw [spaces, List.replicate_zero, List.nil_append, Entry.skipSome?, if_pos hp]
  | succ n =>
    rw [spaces_succ, List.cons_append, Entry.skipSome?, if_pos hp, spaces,
      List.dropWhile_append_of_pos fun c hc => List.eq_of_mem_replicate hc ▸ hp,
      List.dropWhile_cons_of_pos hp]

theorem skipSome?_spaces {p : Char → Bool} {b : List Char} (hp : p ' ' = true) (n : Nat)
    (hb : b.dropWhile p = b) : Entry.skipSome? p (spaces n ++ ' ' :: b) = some b := by
  rw [skipSome?_spaces_append hp, hb]

theorem skipSome?_eq_some {p : Char → Bool} {s rest : List Char} (h : Entry.skipSome? p s = some rest) :
    ∃ skipped, s = skipped ++ rest ∧ skipped ≠ [] ∧ ∀ c ∈ skipped, p c = true := by
  cases s with
  | nil => cases h
  | cons c s =>
    rw [Entry.skipSome?] at h
    split at h
    · next hc =>
      obtain rfl := Option.some.inj h
      refine ⟨c :: s.takeWhile p, by simp, by simp, ?_⟩
      simpa [hc] using List.all_eq_true.1 (List.all_takeWhile (p := p) (l := s))
    · cases h

theorem skipChar?_eq_some {c : Char} {s rest : List Char} (h : Entry.skipChar? c s = some rest) :
    s = c :: rest := by
  cases s with
  | nil => cases h
  | cons d s =>
    simp only [Entry.skipChar?] at h
    split at h
    · next hd => rw [hd, Option.some.inj h]
    · cases h

theorem afterRevision?_word {revision : List Char} (hne : revision ≠ [])
    (hword : ∀ c ∈ revision, Text.isWord c = true) (boundary : Bool) (s : List Char) :
    Entry.afterRevision? (((if boundary then ['^'] else []) ++ revision) ++ ' ' :: s) = some s := by
  have hskip : Entry.skipSome? Text.isWord (revision ++ ' ' :: s) = some (' ' :: s) :=
    skipSome?_append hne hword rfl
  have hcaret (t : List Char) : revision ++ ' ' :: s ≠ '^' :: t := by
    intro ht
    cases hr : revision with
    | nil => exact hne hr
    | cons c r =>
      rw [hr] at ht
      obtain rfl : c = '^' := (List.cons.inj ht).1
      have hw := hword '^' (hr ▸ List.mem_cons_self)
      exact absurd hw (by decide)
  cases boundary with
  | true =>
    have hword : Entry.afterRevision? ('^' :: (revision ++ ' ' :: s)) =
        (Entry.skipSome? Text.isWord (revision ++ ' ' :: s)).bind (Entry.skipChar? ' ') := rfl
    exact hword.trans (by rw [hskip]; rfl)
  | false =>
    simp only [Bool.false_eq_true, if_false, List.nil_append]
    unfold Entry.afterRevision?
    split
    · next t ht => exact absurd ht (hcaret t)
    · exact congrArg (·.bind (Entry.skipChar? ' ')) hskip

theorem afterFile?_plain {file : List Char} (hne : file ≠ [])
    (hplain : ∀ c ∈ file, Text.isBlank c = false) (s : List Char) :
    Entry.afterFile? (file ++ ' ' :: s) = some s := by
  have hskip : Entry.skipSome? (fun c => !Text.isBlank c) (file ++ ' ' :: s) = some (' ' :: s) :=
    skipSome?_append hne (fun c hc => by simp [hplain c hc]) rfl
  simp [Entry.afterFile?, hskip, Entry.skipChar?]

/-- A file column ends at the first blank, which has to be a space. -/
theorem afterFile?_eq_some {s rest : List Char} (hs : Entry.afterFile? s = some rest) :
    ∃ file, file ≠ [] ∧ (∀ c ∈ file, Text.isBlank c = false) ∧ s = file ++ ' ' :: rest := by
  obtain ⟨t, hskip, hchar⟩ := Option.bind_eq_some_iff.1 hs
  obtain ⟨file, rfl, hne, hplain⟩ := skipSome?_eq_some hskip
  exact ⟨file, hne, fun c hc => by simpa using hplain c hc, by rw [skipChar?_eq_some hchar]⟩

/-- A revision as it stands at the start of a line. -/
def IsRevision (word : List Char) : Prop :=
  ∃ (boundary : Bool) (name : List Char), name ≠ [] ∧ (∀ c ∈ name, Text.isWord c = true) ∧
    word = (if boundary then ['^'] else []) ++ name

theorem afterRevision?_eq_some_iff {line s : List Char} :
    Entry.afterRevision? line = some s ↔ ∃ word, IsRevision word ∧ line = word ++ ' ' :: s := by
  constructor
  · intro h
    have revision (boundary : Bool) {w : List Char}
        (hw : (Entry.skipSome? Text.isWord w).bind (Entry.skipChar? ' ') = some s) :
        ∃ word, IsRevision word ∧ (if boundary then ['^'] else []) ++ w = word ++ ' ' :: s := by
      obtain ⟨t, hskip, hchar⟩ := Option.bind_eq_some_iff.1 hw
      obtain ⟨name, rfl, hne, hname⟩ := skipSome?_eq_some hskip
      exact ⟨_, ⟨boundary, name, hne, hname, rfl⟩, by rw [skipChar?_eq_some hchar, List.append_assoc]⟩
    unfold Entry.afterRevision? at h
    split at h
    · exact revision true h
    · exact revision false h
  · rintro ⟨_, ⟨boundary, name, hne, hname, rfl⟩, rfl⟩
    exact afterRevision?_word hne hname boundary s

theorem stamped?_of_isBlank {c : Char} {s : List Char} (hc : Text.isBlank c = false) :
    Entry.stamped? (c :: s) = none := by
  simp [Entry.stamped?, Entry.skipSome?, hc]

theorem lastStamped?_cons {c : Char} {s : List Char} (h : Entry.stamped? (c :: s) = none)
    (hs : Entry.lastStamped? s = none) : Entry.lastStamped? (c :: s) = none := by
  rw [Entry.lastStamped?, h, hs]
  split <;> rfl

/-- No entry starts inside a word. -/
theorem lastStamped?_append_of_plain {a s : List Char} (ha : ∀ c ∈ a, Text.isBlank c = false)
    (hs : Entry.lastStamped? s = none) : Entry.lastStamped? (a ++ s) = none := by
  induction a with
  | nil => exact hs
  | cons c a ih =>
    exact lastStamped?_cons (stamped?_of_isBlank (ha c List.mem_cons_self))
      (ih fun d hd => ha d (List.mem_cons_of_mem c hd))

/-- No entry starts at spaces after which no timestamp stands. -/
theorem lastStamped?_spaces {s : List Char} (n : Nat) (hd : s.dropWhile Text.isBlank = s)
    (hn : Entry.shaped? Entry.stampShape s = none) (hs : Entry.lastStamped? s = none) :
    Entry.lastStamped? (spaces n ++ ' ' :: s) = none := by
  have hstamp (k : Nat) : Entry.stamped? (spaces k ++ ' ' :: s) = none := by
    simp [Entry.stamped?, skipSome?_spaces (p := Text.isBlank) rfl k hd, hn]
  induction n with
  | zero => exact lastStamped?_cons (hstamp 0) hs
  | succ n ih => exact lastStamped?_cons (hstamp (n + 1)) ih

/-- No entry starts within a timestamp. -/
theorem StampParts.lastStamped?_text (p : StampParts) {s : List Char}
    (hs : Entry.lastStamped? s = none) : Entry.lastStamped? (p.text ++ s) = none := by
  have hzone := lastStamped?_append_of_plain p.isBlank_of_mem_zone hs
  have hclock := lastStamped?_append_of_plain p.isBlank_of_mem_clock (lastStamped?_spaces 0
    (dropWhile_append_of_neg p.zone_ne p.isBlank_of_mem_zone) (p.shaped?_zone _) hzone)
  have hdate := lastStamped?_append_of_plain p.isBlank_of_mem_date (lastStamped?_spaces 0
    (dropWhile_append_of_neg p.clock_ne p.isBlank_of_mem_clock) (p.shaped?_clock _) hclock)
  simpa [StampParts.text, spaces] using hdate

/-- What comes before the last entry on a line does not matter. -/
theorem lastStamped?_append {a s : List Char} {x : List Char × List Char} (ha : '\n' ∉ a)
    (hs : Entry.lastStamped? s = some x) : Entry.lastStamped? (a ++ s) = some x := by
  induction a with
  | nil => exact hs
  | cons c a ih =>
    have hc : c ≠ '\n' := fun he => ha (he ▸ List.mem_cons_self)
    rw [List.cons_append, Entry.lastStamped?, if_neg hc, ih fun hm => ha (List.mem_cons_of_mem c hm)]
    rfl

/-- No entry starts inside a word, so that a word in front does not matter. -/
theorem lastStamped?_plain_append {a : List Char} (ha : ∀ c ∈ a, Text.isBlank c = false) (s : List Char) :
    Entry.lastStamped? (a ++ s) = Entry.lastStamped? s := by
  cases hs : Entry.lastStamped? s with
  | none => exact lastStamped?_append_of_plain ha hs
  | some x => exact lastStamped?_append (fun hm => by cases ha '\n' hm) hs

/-- No entry starts at spaces with something else than a timestamp behind them. -/
theorem lastStamped?_gap {s : List Char} (n : Nat) (hd : s.dropWhile Text.isBlank = s)
    (hn : Entry.shaped? Entry.stampShape s = none) :
    Entry.lastStamped? (spaces n ++ ' ' :: s) = Entry.lastStamped? s := by
  cases hs : Entry.lastStamped? s with
  | none => exact lastStamped?_spaces n hd hn hs
  | some x =>
    rw [List.append_cons]
    exact lastStamped?_append (fun hm => by cases eq_space_of_mem hm) hs

/-- A line number with the closing parenthesis behind it does not matter. -/
theorem lastStamped?_number {number : List Char} (hne : number ≠ [])
    (hd : ∀ c ∈ number, Text.isDecimalDigit c = true) (n : Nat) (s : List Char) :
    Entry.lastStamped? (spaces n ++ ' ' :: (number ++ ')' :: s)) = Entry.lastStamped? s := by
  have hplain : ∀ c ∈ number ++ [')'], Text.isBlank c = false := by
    intro c hc
    rcases List.mem_append.1 hc with hc | hc
    · exact Text.isBlank_of_isDecimalDigit (hd c hc)
    · exact List.mem_singleton.1 hc ▸ rfl
  have hblank : (number ++ ')' :: s).dropWhile Text.isBlank = number ++ ')' :: s :=
    dropWhile_append_of_neg hne fun c hc => Text.isBlank_of_isDecimalDigit (hd c hc)
  rw [lastStamped?_gap n hblank (shaped?_stampShape_number hd), List.append_cons,
    lastStamped?_plain_append hplain]

theorem StampParts.lastStamped?_text_append (p : StampParts) (y : List Char) :
    Entry.lastStamped? (p.text ++ y) = Entry.lastStamped? y := by
  cases hy : Entry.lastStamped? y with
  | none => exact p.lastStamped?_text hy
  | some x => exact lastStamped?_append p.newline_not_mem_text hy

/-- No entry begins in what follows if none begins earlier. -/
theorem lastStamped?_of_append {a s : List Char} (ha : '\n' ∉ a) (h : Entry.lastStamped? (a ++ s) = none) :
    Entry.lastStamped? s = none := by
  cases hs : Entry.lastStamped? s with
  | none => rfl
  | some x =>
    rw [lastStamped?_append ha hs] at h
    cases h

theorem lastStamped?_ne_none {c : Char} {s : List Char} {x : List Char × List Char}
    (h : Entry.stamped? (c :: s) = some x) : Entry.lastStamped? (c :: s) ≠ none := by
  rw [Entry.lastStamped?, h]
  split
  · simp
  · cases Entry.lastStamped? s <;> simp

theorem StampParts.dropWhile_text_append (p : StampParts) (s : List Char) :
    (p.text ++ s).dropWhile Text.isBlank = p.text ++ s := by
  rw [text, List.append_assoc]
  exact dropWhile_append_of_neg p.date_ne p.isBlank_of_mem_date

/-- Blanks are taken off in front of a timestamp only as far as it. -/
theorem StampParts.dropWhile_text (p : StampParts) (front back : List Char) :
    (front ++ (p.text ++ back)).dropWhile Text.isBlank =
      front.dropWhile Text.isBlank ++ (p.text ++ back) := by
  rw [List.dropWhile_append]
  split
  · next he => rw [List.isEmpty_iff.1 he, p.dropWhile_text_append, List.nil_append]
  · rfl

/-- The version after a timestamp: a line number, the closing parenthesis and an entry stand before it. -/
def lineEnd? (s : List Char) : Option (List Char) := do
  let s ← Entry.skipSome? Text.isDecimalDigit (← Entry.skipSome? (· == ' ') s)
  Entry.version? (← Entry.skipChar? ')' s)

/-- The end of a line is read behind spaces if it has a line number and an entry. -/
theorem lineEnd?_number {number content version : List Char} (hne : number ≠ [])
    (hd : ∀ c ∈ number, Text.isDecimalDigit c = true) (n : Nat)
    (hv : Entry.version? content = some version) :
    lineEnd? (spaces n ++ ' ' :: (number ++ ')' :: content)) = some version := by
  have hstart : (number ++ ')' :: content).dropWhile (· == ' ') = number ++ ')' :: content := by
    refine dropWhile_append_of_neg hne fun c hc => ?_
    simp only [beq_eq_false_iff_ne]
    rintro rfl
    cases hd ' ' hc
  have hspaces := skipSome?_spaces (p := (· == ' ')) rfl n hstart
  have hnumber : Entry.skipSome? Text.isDecimalDigit (number ++ ')' :: content) = some (')' :: content) :=
    skipSome?_append hne hd rfl
  simp only [lineEnd?, bind, hspaces, hnumber, Option.bind_some, Entry.skipChar?, if_true, hv]

theorem stamped?_eq_bind (s : List Char) :
    Entry.stamped? s = (Entry.skipSome? Text.isBlank s).bind fun rest =>
      (Entry.shaped? Entry.stampShape rest).bind fun x => (lineEnd? x.2).map (x.1, ·) := by
  simp only [Entry.stamped?, lineEnd?, bind, Option.map_eq_bind, Option.bind_assoc]
  rfl

theorem stamped?_eq_some_iff {s stamp version : List Char} :
    Entry.stamped? s = some (stamp, version) ↔ ∃ rest back, Entry.skipSome? Text.isBlank s = some rest ∧
      Entry.shaped? Entry.stampShape rest = some (stamp, back) ∧ lineEnd? back = some version := by
  rw [stamped?_eq_bind]
  simp only [Option.bind_eq_some_iff, Option.map_eq_some_iff, Prod.mk.injEq, Prod.exists]
  constructor
  · rintro ⟨rest, hb, _, back, hs, _, hv, rfl, rfl⟩
    exact ⟨rest, back, hb, hs, hv⟩
  · rintro ⟨rest, back, hb, hs, hv⟩
    exact ⟨rest, hb, stamp, back, hs, version, hv, rfl, rfl⟩

theorem lineEnd?_head? {s version : List Char} (h : lineEnd? s = some version) :
    ∃ rest, s = ' ' :: rest := by
  cases s with
  | nil => cases h
  | cons c s =>
    by_cases hc : c = ' '
    · exact ⟨s, by rw [hc]⟩
    · simp [lineEnd?, Entry.skipSome?, hc] at h

/-- After a blank, a timestamp is read with what follows it. -/
theorem StampParts.stamped?_place (p : StampParts) {back version : List Char} {blank : Char}
    (hb : Text.isBlank blank = true) (hend : lineEnd? back = some version) :
    Entry.stamped? (blank :: (p.text ++ back)) = some (p.text, version) := by
  have hskip : Entry.skipSome? Text.isBlank (blank :: (p.text ++ back)) = some (p.text ++ back) := by
    rw [Entry.skipSome?, if_pos hb, p.dropWhile_text_append]
  exact stamped?_eq_some_iff.2 ⟨_, back, hskip, p.shaped?_text back, hend⟩

/-- The last entry of a line starts at one blank, with a timestamp right behind it. -/
theorem lastStamped?_eq_some {s stamp version : List Char} (hn : '\n' ∉ s)
    (h : Entry.lastStamped? s = some (stamp, version)) :
    ∃ before blank back, s = before ++ blank :: (stamp ++ back) ∧ Text.isBlank blank = true ∧
      lineEnd? back = some version ∧ Entry.lastStamped? back = none := by
  induction s with
  | nil => cases h
  | cons c s ih =>
    have hc : c ≠ '\n' := fun he => hn (he ▸ List.mem_cons_self)
    have hs : '\n' ∉ s := fun hm => hn (List.mem_cons_of_mem c hm)
    rw [Entry.lastStamped?, if_neg hc] at h
    cases hl : Entry.lastStamped? s with
    | some x =>
      rw [hl] at h
      obtain rfl : x = (stamp, version) := Option.some.inj h
      obtain ⟨before, blank, back, rfl, hrest⟩ := ih hs hl
      exact ⟨c :: before, blank, back, rfl, hrest⟩
    | none =>
      rw [hl] at h
      obtain ⟨rest, back, hblank, hshape, hend⟩ := stamped?_eq_some_iff.1 h
      rw [Entry.skipSome?] at hblank
      split at hblank
      · next hb =>
        -- with another blank behind it, the entry would start there as well
        obtain rfl : s = rest := by
          cases s with
          | nil => exact Option.some.inj hblank
          | cons d s =>
            by_cases hd : Text.isBlank d = true
            · have hagain : Entry.skipSome? Text.isBlank (d :: s) = some rest := by
                rw [Entry.skipSome?, if_pos hd, ← hblank, List.dropWhile_cons_of_pos hd]
              exact absurd hl (lastStamped?_ne_none (stamped?_eq_some_iff.2 ⟨rest, back, hagain, hshape, hend⟩))
            · rw [List.dropWhile_cons_of_neg hd] at hblank
              exact Option.some.inj hblank
        obtain ⟨rfl, -⟩ := shaped?_eq_some hshape
        exact ⟨[], c, back, rfl, hb, hend,
          lastStamped?_of_append (fun hm => hs (List.mem_append_left _ hm)) hl⟩
      · cases hblank

/-- A timestamp that a blank precedes is read if the end of a line follows it. -/
theorem StampParts.lastStamped?_place (p : StampParts) {before back version : List Char} {blank : Char}
    (hn : '\n' ∉ before ++ [blank]) (hb : Text.isBlank blank = true)
    (hend : lineEnd? back = some version) (hs : Entry.lastStamped? back = none) :
    Entry.lastStamped? (before ++ blank :: (p.text ++ back)) = some (p.text, version) := by
  simp only [List.mem_append, List.mem_singleton, not_or] at hn
  apply lastStamped?_append hn.1
  rw [Entry.lastStamped?, if_neg (Ne.symm hn.2), p.lastStamped?_text hs, p.stamped?_place hb hend]
  rfl

/-- What may stand before the opening parenthesis. -/
inductive IsHead : List Char → Prop where
  | revision {word : List Char} : IsRevision word → IsHead (word ++ [' '])
  | file {word file : List Char} : IsRevision word → file ≠ [] → (∀ c ∈ file, Text.isBlank c = false) →
    IsHead (word ++ ' ' :: (file ++ [' ']))

theorem columns?_of_file {line s w : List Char} {c : Char} {x : List Char × List Char}
    (hs : Entry.afterRevision? line = some s) (hf : Entry.afterFile? s = some ('(' :: c :: w))
    (hc : c ≠ '\n') (hw : Entry.lastStamped? w = some x) : Entry.columns? line = some x := by
  simp [Entry.columns?, hs, hf, Entry.afterParen?, Entry.skipChar?, Entry.authored?, hc, hw]

/-- Where there is no file column, a part of the author may be taken for one, to no effect. -/
theorem columns?_of_direct {line w : List Char} {c : Char} {x : List Char × List Char}
    (hs : Entry.afterRevision? line = some ('(' :: c :: w)) (hn : '\n' ∉ c :: w)
    (hw : Entry.lastStamped? w = some x) : Entry.columns? line = some x := by
  simp only [List.mem_cons, not_or] at hn
  have hdirect : Entry.authored? (c :: w) = some x := by rw [Entry.authored?, if_neg (Ne.symm hn.1), hw]
  have hfile (u : List Char) (hu : Entry.afterFile? ('(' :: c :: w) = some ('(' :: u)) :
      Entry.authored? u = some x ∨ Entry.authored? u = none := by
    obtain ⟨file, hne, -, he⟩ := afterFile?_eq_some hu
    cases u with
    | nil => exact .inr rfl
    | cons d u =>
      have hsuffix : u <:+ w := by
        obtain ⟨f, file, rfl⟩ := List.exists_cons_of_ne_nil hne
        have htail : d :: u <:+ c :: w := ⟨file ++ [' ', '('], by simp [(List.cons.inj he).2]⟩
        rcases List.suffix_cons_iff.1 htail with heq | htail
        · obtain ⟨-, rfl⟩ := List.cons.inj heq
          exact List.suffix_refl u
        · exact (List.suffix_cons d u).trans htail
      obtain ⟨before, rfl⟩ := hsuffix
      rw [Entry.authored?]
      split
      · exact .inr rfl
      · cases hl : Entry.lastStamped? u with
        | none => exact .inr rfl
        | some y =>
          rw [lastStamped?_append (fun hm => hn.2 (List.mem_append_left _ hm)) hl] at hw
          exact .inl hw
  have hparen : Entry.afterParen? ('(' :: c :: w) = some (c :: w) := rfl
  simp only [Entry.columns?, hs, bind, Option.bind_some]
  cases ht : Entry.afterFile? ('(' :: c :: w) with
  | none => exact hdirect
  | some t =>
    cases hu : Entry.afterParen? t with
    | none => simpa [hu, hparen] using hdirect
    | some u =>
      rw [skipChar?_eq_some hu] at ht
      rcases hfile u ht with ha | ha
      · simp [hu, ha]
      · simpa [hu, ha, hparen] using hdirect

theorem columns?_of_head {head w : List Char} {c : Char} {x : List Char × List Char} (hh : IsHead head)
    (hn : '\n' ∉ c :: w) (hw : Entry.lastStamped? w = some x) :
    Entry.columns? (head ++ '(' :: c :: w) = some x := by
  cases hh with
  | @revision word hword =>
    apply columns?_of_direct (afterRevision?_eq_some_iff.2 ⟨word, hword, ?_⟩) hn hw
    simp
  | @file word file hword hne hplain =>
    have hc : c ≠ '\n' := fun he => hn (he ▸ List.mem_cons_self)
    apply columns?_of_file (afterRevision?_eq_some_iff.2 ⟨word, hword, ?_⟩)
      (afterFile?_plain hne hplain _) hc hw
    simp

/-- A line is read behind its head and the opening parenthesis, after one character of the author. -/
theorem columns?_eq_some_iff {line : List Char} {x : List Char × List Char} (hn : '\n' ∉ line) :
    Entry.columns? line = some x ↔
      ∃ head c w, IsHead head ∧ line = head ++ '(' :: c :: w ∧ Entry.lastStamped? w = some x := by
  have authored {s : List Char} (ha : Entry.authored? s = some x) :
      ∃ c w, s = c :: w ∧ Entry.lastStamped? w = some x := by
    cases s with
    | nil => cases ha
    | cons c w =>
      rw [Entry.authored?] at ha
      split at ha
      · cases ha
      · exact ⟨c, w, rfl, ha⟩
  constructor
  · intro h
    obtain ⟨s, hs, hrest⟩ := Option.bind_eq_some_iff.1 h
    obtain ⟨word, hword, rfl⟩ := afterRevision?_eq_some_iff.1 hs
    rw [Option.orElse_eq_or] at hrest
    rcases Option.or_eq_some_iff.1 hrest with hfile | ⟨-, hdirect⟩
    · obtain ⟨t, ht, hfile⟩ := Option.bind_eq_some_iff.1 hfile
      obtain ⟨u, hu, ha⟩ := Option.bind_eq_some_iff.1 hfile
      obtain ⟨c, w, rfl, hw⟩ := authored ha
      obtain ⟨file, hne, hplain, rfl⟩ := afterFile?_eq_some ht
      exact ⟨_, c, w, .file hword hne hplain, by simp [skipChar?_eq_some hu], hw⟩
    · obtain ⟨u, hu, ha⟩ := Option.bind_eq_some_iff.1 hdirect
      obtain ⟨c, w, rfl, hw⟩ := authored ha
      exact ⟨_, c, w, .revision hword, by simp [skipChar?_eq_some hu], hw⟩
  · rintro ⟨head, c, w, hhead, rfl, hw⟩
    exact columns?_of_head hhead (fun hm => hn (List.mem_append_right _ (List.mem_cons_of_mem _ hm))) hw

/-- A line that is read has a place for its timestamp: with any other one there, that one is read. -/
theorem exists_stamp_place {line stamp version : List Char} (hn : '\n' ∉ line)
    (h : Entry.columns? line = some (stamp, version)) :
    ∃ front back, line = front ++ (stamp ++ back) ∧
      ∀ p : StampParts, Entry.columns? (front ++ (p.text ++ back)) = some (p.text, version) := by
  obtain ⟨head, c, w, hhead, rfl, hw⟩ := (columns?_eq_some_iff hn).1 h
  simp only [List.mem_append, List.mem_cons, not_or] at hn
  obtain ⟨before, blank, back, rfl, hblank, hend, hlast⟩ := lastStamped?_eq_some hn.2.2.2 hw
  simp only [List.mem_append, List.mem_cons, not_or] at hn
  refine ⟨head ++ '(' :: c :: (before ++ [blank]), back, by simp, fun p => ?_⟩
  have hp := p.not_mem_text (c := '\n') rfl (by decide)
  refine (columns?_eq_some_iff ?_).2 ⟨head, c, before ++ blank :: (p.text ++ back), hhead, by simp,
    p.lastStamped?_place ?_ hblank hend hlast⟩
  · simp [hn, hp]
  · simp [hn]

end RecipePins.History
