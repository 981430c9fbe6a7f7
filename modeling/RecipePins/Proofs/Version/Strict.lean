import RecipePins.Proofs.Text.Digits
import RecipePins.Version.Semantic

/-!
# How strict semantic versions are written

A valid version is written in one way: three numbers without needless zeros between dots, the pre-release
after a hyphen and the build after a plus sign. The strict reader reads these texts and no others.
-/
namespace RecipePins.Version.SemanticVersion
open Text

/-- A text of non-empty parts between dots, each of letters, digits and hyphens and accepted. -/
structure IsLabel (accepts : List Char → Bool) (label : List Char) : Prop where
  chars : ∀ c ∈ label, isLabelChar c = true
  parts : ∀ part ∈ fields '.' label, part ≠ [] ∧ accepts part = true

/-- A label behind its mark; there is no mark without a label. -/
def marked (mark : Char) : List Char → List Char
  | [] => []
  | c :: label => mark :: c :: label

def toChars (v : SemanticVersion) : List Char :=
  decimal v.major ++ '.' :: (decimal v.minor ++ '.' :: (decimal v.patch ++
    (marked '-' v.pre.toList ++ marked '+' v.build.toList)))

/-- The numbers fit in 64 bits, pre-release and build are labels unless they are empty, and no number in
the pre-release has a needless zero. -/
structure Valid (v : SemanticVersion) : Prop where
  major : v.major < wordLimit
  minor : v.minor < wordLimit
  patch : v.patch < wordLimit
  pre : v.pre ≠ "" → IsLabel (fun part => !hasLeadingZero part) v.pre.toList
  build : v.build ≠ "" → IsLabel (fun _ => true) v.build.toList

/-- Where a text is cut by a class of characters. -/
theorem takeWhile_dropWhile_iff {p : Char → Bool} {s a rest : List Char} :
    s.takeWhile p = a ∧ s.dropWhile p = rest ↔
      s = a ++ rest ∧ (∀ c ∈ a, p c = true) ∧ ∀ c ∈ rest.head?, p c = false := by
  constructor
  · rintro ⟨rfl, rfl⟩
    exact ⟨List.takeWhile_append_dropWhile.symm, List.all_eq_true.1 List.all_takeWhile,
      fun c hc => not_of_mem_head?_dropWhile hc⟩
  · rintro ⟨rfl, ha, hr⟩
    rw [List.takeWhile_append_of_pos ha, List.dropWhile_append_of_pos ha]
    cases rest with
    | nil => simp
    | cons c rest =>
      have hc : p c = false := hr c rfl
      simp [hc]

/-- A number is read exactly where it is written and no digit follows. -/
theorem number?_eq_some_iff {s rest : List Char} {n : Nat} :
    number? s = some (n, rest) ↔
      s = decimal n ++ rest ∧ n < wordLimit ∧ ∀ c ∈ rest.head?, c.isDigit = false := by
  constructor
  · intro h
    simp only [number?] at h
    split at h
    · cases h
    · next hz =>
      obtain ⟨m, hm, he⟩ := Option.map_eq_some_iff.1 h
      obtain ⟨rfl, rfl⟩ := Prod.mk.inj he
      obtain ⟨hrun, rfl, hlt⟩ := readDigits?_eq_some_iff.1 hm
      obtain ⟨hs, hdigits, hrest⟩ := takeWhile_dropWhile_iff.1 ⟨rfl, rfl⟩
      rw [decimal_digitsValue (isDigitRun_iff.1 hrun).1 hdigits]
      · exact ⟨hs, hlt, hrest⟩
      · intro hlen hhead
        match hd : s.takeWhile Char.isDigit with
        | [] => simp [hd] at hlen
        | [_] => simp [hd] at hlen
        | c :: d :: ds =>
          rw [hd, List.head?_cons, Option.some.injEq] at hhead
          exact hz d ds (by rw [hd, hhead])
  · rintro ⟨rfl, hn, hrest⟩
    have hdigits : ∀ c ∈ decimal n, c.isDigit = true := fun _ => isDigit_of_mem_decimal
    obtain ⟨htake, hdrop⟩ := takeWhile_dropWhile_iff.2 ⟨rfl, hdigits, hrest⟩
    simp only [number?, htake, hdrop]
    split
    · next c cs hd => exact absurd (by rw [hd]; rfl) (head?_decimal (n := n) (by rw [hd]; simp))
    · rw [readDigits?_eq_some_iff.2 ⟨isDigitRun_decimal n, digitsValue_decimal n, hn⟩, Option.map_some]

theorem label?_eq_some_iff {accepts : List Char → Bool} {s label rest : List Char} :
    label? accepts s = some (label, rest) ↔
      s = label ++ rest ∧ IsLabel accepts label ∧ ∀ c ∈ rest.head?, isLabelChar c = false := by
  have hparts : (fields '.' (s.takeWhile isLabelChar)).all (fun part => !part.isEmpty && accepts part) = true ↔
      ∀ part ∈ fields '.' (s.takeWhile isLabelChar), part ≠ [] ∧ accepts part = true := by
    simp [List.all_eq_true]
  simp only [label?]
  constructor
  · intro h
    split at h
    · next hall =>
      obtain ⟨rfl, rfl⟩ := Prod.mk.inj (Option.some.inj h)
      obtain ⟨hs, hchars, hrest⟩ := takeWhile_dropWhile_iff.1 ⟨rfl, rfl⟩
      exact ⟨hs, ⟨hchars, hparts.1 hall⟩, hrest⟩
    · cases h
  · rintro ⟨hs, hlabel, hrest⟩
    obtain ⟨htake, hdrop⟩ := takeWhile_dropWhile_iff.2 ⟨hs, hlabel.chars, hrest⟩
    rw [htake] at hparts
    rw [htake, hdrop, if_pos (hparts.2 hlabel.parts)]

theorem IsLabel.ne_nil {accepts : List Char → Bool} {label : List Char} (h : IsLabel accepts label) :
    label ≠ [] := by
  rintro rfl
  exact (h.parts [] List.mem_cons_self).1 rfl

def labelled? (mark : Char) (accepts : List Char → Bool) : List Char → Option (List Char × List Char)
  | [] => some ([], [])
  | c :: s => if c = mark then label? accepts s else some ([], c :: s)

theorem pre?_eq_labelled? (s : List Char) :
    pre? s = labelled? '-' (fun part => !hasLeadingZero part) s := by
  rw [pre?.eq_def]
  split
  · rfl
  · next h =>
    cases s with
    | nil => rfl
    | cons c s => rw [labelled?, if_neg fun hc => h s (by rw [hc])]

theorem build?_eq_labelled? (s : List Char) : build? s = labelled? '+' (fun _ => true) s := by
  rw [build?.eq_def]
  split
  · rfl
  · next h =>
    cases s with
    | nil => rfl
    | cons c s => rw [labelled?, if_neg fun hc => h s (by rw [hc])]

theorem labelled?_eq_some_iff {mark : Char} {accepts : List Char → Bool} {s label rest : List Char} :
    labelled? mark accepts s = some (label, rest) ↔
      s = marked mark label ++ rest ∧
        if label = [] then rest.head? ≠ some mark
        else IsLabel accepts label ∧ ∀ c ∈ rest.head?, isLabelChar c = false := by
  cases s with
  | nil =>
    cases label with
    | nil => cases rest <;> simp [labelled?, marked]
    | cons d label => simp [labelled?, marked]
  | cons c s =>
    by_cases hc : c = mark
    · rw [labelled?, if_pos hc, label?_eq_some_iff, hc]
      cases label with
      | nil =>
        simp only [marked, List.nil_append, if_pos]
        constructor
        · exact fun h => absurd rfl h.2.1.ne_nil
        · rintro ⟨rfl, h⟩
          exact absurd rfl h
      | cons d label => simp [marked]
    · rw [labelled?, if_neg hc]
      cases label with
      | nil =>
        simp only [marked, List.nil_append, if_pos, Option.some.injEq, Prod.mk.injEq, true_and]
        constructor
        · rintro rfl
          exact ⟨rfl, by simpa using hc⟩
        · exact fun h => h.1
      | cons d label => simp [marked, hc]

theorem dot?_eq_some_iff {s rest : List Char} : dot? s = some rest ↔ s = '.' :: rest := by
  rw [dot?.eq_def]
  split
  · next s => simp
  · next h =>
    simp only [reduceCtorEq, false_iff]
    exact fun hs => h rest hs

theorem eq_mark_of_mem_head? {mark c : Char} {label : List Char} (h : c ∈ (marked mark label).head?) :
    c = mark := by
  cases label with
  | nil => cases h
  | cons d label => exact (Option.some.inj h).symm

/-- The strict reader reads a version exactly where it is written. -/
theorem ofChars?_eq_some_iff {s : List Char} {v : SemanticVersion} :
    ofChars? s = some v ↔ v.Valid ∧ s = v.toChars := by
  simp only [ofChars?, Option.bind_eq_bind, Option.bind_eq_some_iff, Prod.exists, number?_eq_some_iff,
    dot?_eq_some_iff, pre?_eq_labelled?, build?_eq_labelled?, labelled?_eq_some_iff]
  constructor
  · rintro ⟨major, _, ⟨rfl, hmajor, -⟩, _, rfl, minor, _, ⟨rfl, hminor, -⟩, _, rfl, patch, _,
      ⟨rfl, hpatch, -⟩, pre, _, ⟨rfl, hpre⟩, build, rest, ⟨rfl, hbuild⟩, h⟩
    split at h
    · next he =>
      obtain rfl := Option.some.inj h
      rw [List.isEmpty_iff.1 he, List.append_nil]
      have written {label : List Char} (hne : String.ofList label ≠ "") : label ≠ [] :=
        fun hl => hne (by rw [hl])
      refine ⟨⟨hmajor, hminor, hpatch, fun hne => ?pre, fun hne => ?build⟩, ?text⟩
      case pre =>
        rw [if_neg (written hne)] at hpre
        exact String.toList_ofList ▸ hpre.1
      case build =>
        rw [if_neg (written hne)] at hbuild
        exact String.toList_ofList ▸ hbuild.1
      case text => simp only [toChars, String.toList_ofList]
    · cases h
  · rintro ⟨hv, rfl⟩
    have written {label : String} (hne : label.toList ≠ []) : label ≠ "" :=
      fun hl => hne (by rw [hl]; rfl)
    refine ⟨v.major, _, ⟨rfl, hv.major, by simp⟩, _, rfl, v.minor, _, ⟨rfl, hv.minor, by simp⟩, _, rfl,
      v.patch, _, ⟨rfl, hv.patch, ?digit⟩, v.pre.toList, _, ⟨rfl, ?pre⟩, v.build.toList, [],
      ⟨(List.append_nil _).symm, ?build⟩, ?read⟩
    case digit =>
      -- the patch number ends at a mark, or with the text
      intro c hc
      rw [List.head?_append, Option.mem_def, Option.or_eq_some_iff] at hc
      rcases hc with hc | ⟨-, hc⟩ <;> rw [eq_mark_of_mem_head? hc] <;> rfl
    case pre =>
      split
      · exact fun hc => absurd (eq_mark_of_mem_head? hc) (by decide)
      · next hne =>
        refine ⟨hv.pre (written hne), fun c hc => ?_⟩
        rw [eq_mark_of_mem_head? hc]
        rfl
    case build =>
      split
      · simp
      · next hne => exact ⟨hv.build (written hne), by simp⟩
    case read => simp

end RecipePins.Version.SemanticVersion
