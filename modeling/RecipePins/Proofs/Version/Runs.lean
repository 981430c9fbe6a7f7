import Mathlib.Data.List.SplitBy
import RecipePins.Proofs.Text.ByteOrder
import RecipePins.Proofs.Text.Digits
import RecipePins.Proofs.Text.Search
import RecipePins.Proofs.Version.Order

/-!
# Keys of versions

The runs of a key are the longest stretches of digits and of letters of a text; all other characters only
separate them. Keys compare as the lists of what their runs weigh: a word weighs by the bytes of its
lower-case letters, and a number by its value and more than every word. Keys that compare equal are equal.
-/
namespace RecipePins.Version
open Text

/-- What a character is to the runs of a text. -/
inductive CharKind where
  | digit
  | letter
  | separator
  deriving DecidableEq

def charKind (c : Char) : CharKind :=
  if c.isDigit then .digit else if c.isAlpha then .letter else .separator

/-- The longest stretches of digits and of letters of a text, in order. -/
def maximalRuns (s : List Char) : List (List Char) :=
  (s.splitBy fun c d => charKind c = charKind d).filter fun run => run.all (charKind · ≠ .separator)

/-- What a run counts for. -/
inductive Weight where
  | word (bytes : List UInt8)
  | number (value : Nat)

/-- Words weigh less than numbers; words compare by their bytes and numbers by value. -/
def Weight.order : Weight → Weight → Ordering
  | word a, word b => compare a b
  | word _, number _ => .lt
  | number _, word _ => .gt
  | number a, number b => compare a b

/-- What a stretch of digits or of letters weighs; letters weigh the same in either case. -/
def Weight.ofRun (run : List Char) : Weight :=
  if run.all Char.isDigit then number (digitsValue run) else word (encode (run.map Char.toLower))

/-- What the runs of a text weigh, in order. -/
def weights (s : String) : List Weight :=
  (maximalRuns s.toList).map Weight.ofRun

/-- The run that a stretch of digits or of letters gives. -/
def Run.ofText (run : List Char) : Run :=
  if run.all Char.isDigit then .number (plainDigits run) else .word (run.map Char.toLower)

theorem maximalRuns_append {run rest : List Char} {k : CharKind} (hne : run ≠ [])
    (hrun : ∀ c ∈ run, charKind c = k) (hrest : ∀ c ∈ rest.head?, charKind c ≠ k) :
    maximalRuns (run ++ rest) = (if k = .separator then [] else [run]) ++ maximalRuns rest := by
  have hchain : run.IsChain fun c d => decide (charKind c = charKind d) = true := by
    apply List.Pairwise.isChain
    apply List.pairwise_of_forall_mem_list
    intro c hc d hd
    rw [decide_eq_true_iff, hrun c hc, hrun d hd]
  have hcut : ∀ c ∈ run.getLast?, ∀ d ∈ rest.head?, decide (charKind c = charKind d) = false := by
    intro c hc d hd
    rw [decide_eq_false_iff_not, hrun c (List.mem_of_getLast? hc)]
    exact (hrest d hd).symm
  have hall : run.all (charKind · ≠ .separator) = decide (k ≠ .separator) := by
    rw [Bool.eq_iff_iff, List.all_eq_true]
    obtain ⟨c, hc⟩ := List.exists_mem_of_ne_nil run hne
    simp only [decide_eq_true_iff]
    exact ⟨fun h => hrun c hc ▸ h c hc, fun h d hd => hrun d hd ▸ h⟩
  rw [maximalRuns, List.splitBy_append hcut, List.splitBy_of_isChain hne hchain, List.filter_append,
    List.filter_singleton, hall, maximalRuns]
  by_cases hk : k = .separator <;> simp [hk]

/-- A text begins with its longest beginning of characters of one kind. -/
theorem maximalRuns_cons {p : Char → Bool} {k : CharKind} (hp : ∀ c, p c = true ↔ charKind c = k)
    {c : Char} (hc : p c = true) (cs : List Char) :
    maximalRuns (c :: cs) = (if k = .separator then [] else [c :: cs.takeWhile p]) ++
      maximalRuns (cs.dropWhile p) := by
  have htake := List.all_eq_true.1 (List.all_takeWhile (p := p) (l := cs))
  have hrun : ∀ d ∈ c :: cs.takeWhile p, charKind d = k := by
    rw [List.forall_mem_cons]
    exact ⟨(hp c).1 hc, fun d hd => (hp d).1 (htake d hd)⟩
  have hrest : ∀ d ∈ (cs.dropWhile p).head?, charKind d ≠ k := by
    intro d hd hk
    exact Bool.false_ne_true ((not_of_mem_head?_dropWhile hd).symm.trans ((hp d).2 hk))
  rw [← maximalRuns_append (List.cons_ne_nil c _) hrun hrest, List.cons_append,
    List.takeWhile_append_dropWhile]

theorem isDigit_iff_charKind (c : Char) : c.isDigit = true ↔ charKind c = .digit := by
  rw [charKind]
  split
  · next h => simp [h]
  · next h => split <;> simp [h]

theorem isAlpha_iff_charKind (c : Char) : c.isAlpha = true ↔ charKind c = .letter := by
  rw [charKind]
  split
  · next h => simp [isAlpha_of_isDigit h]
  · next h => split <;> simp [*]

theorem maximalRuns_separator {c : Char} (hc : charKind c = .separator) (cs : List Char) :
    maximalRuns (c :: cs) = maximalRuns cs := by
  have hp (d : Char) : decide (charKind d = .separator) = true ↔ charKind d = .separator :=
    decide_eq_true_iff
  -- `c` goes with the separators behind it, which give no run either
  rw [maximalRuns_cons hp ((hp c).2 hc), if_pos rfl, List.nil_append]
  cases cs with
  | nil => rfl
  | cons d ds =>
    by_cases hd : charKind d = .separator
    · rw [maximalRuns_cons hp ((hp d).2 hd), if_pos rfl, List.nil_append,
        List.dropWhile_cons_of_pos (by simpa using hd)]
    · rw [List.dropWhile_cons_of_neg (by simpa using hd)]

/-- Reading runs off a text is cutting out its longest stretches. -/
theorem runs_eq (s : List Char) : runs s = (maximalRuns s).map Run.ofText := by
  fun_induction runs s with
  | case1 => rfl
  | case2 c cs hc ih =>
    have hword : Run.ofText (c :: cs.takeWhile Char.isDigit) =
        .number (plainDigits (c :: cs.takeWhile Char.isDigit)) := by
      rw [Run.ofText, List.all_cons, hc, List.all_takeWhile, Bool.true_and, if_pos rfl]
    rw [maximalRuns_cons isDigit_iff_charKind hc, ← hword, ih]
    rfl
  | case3 c cs hd hc ih =>
    have hword : Run.ofText (c :: cs.takeWhile Char.isAlpha) =
        .word ((c :: cs.takeWhile Char.isAlpha).map Char.toLower) := by
      rw [Run.ofText, List.all_cons, Bool.eq_false_iff.2 hd, Bool.false_and, if_neg Bool.false_ne_true]
    rw [maximalRuns_cons isAlpha_iff_charKind hc, ← hword, ih]
    rfl
  | case4 c cs hd hc ih =>
    have hsep : charKind c = .separator := by rw [charKind, if_neg hd, if_neg hc]
    rw [maximalRuns_separator hsep, ih]

example : (maximalRuns "3.0-Beta2é1".toList).map String.ofList = ["3", "0", "Beta", "2", "1"] := by
  decide +kernel

/-- Two runs compare as they weigh. -/
theorem Run.ofText_order (a b : List Char) :
    Weight.order (.ofRun a) (.ofRun b) = Run.order (.ofText a) (.ofText b) := by
  have digits {s : List Char} (h : s.all Char.isDigit = true) : ∀ d ∈ s, d.isDigit = true :=
    List.all_eq_true.1 h
  rw [Weight.ofRun, Weight.ofRun, ofText, ofText]
  split <;> split
  case isTrue.isTrue ha hb =>
    exact ((compareDigits_plainDigits a b).trans (compareDigits_eq (digits ha) (digits hb))).symm
  case isFalse.isFalse => exact compare_encode _ _
  all_goals rfl

/-- Two runs compare equal only if they are equal. -/
theorem Run.ofText_order_eq_iff (a b : List Char) :
    Run.order (.ofText a) (.ofText b) = .eq ↔ Run.ofText a = .ofText b := by
  rw [ofText, ofText]
  split <;> split
  case isTrue.isTrue =>
    rw [number.injEq, plainDigits_eq_iff, ← compareDigits_eq_eq_iff, ← compareDigits_plainDigits]
    rfl
  case isFalse.isFalse =>
    rw [word.injEq]
    exact Std.LawfulEqOrd.compare_eq_iff_eq
  all_goals simp [order]

theorem RunKey.ofString_order (s t : String) :
    (ofString s).order (ofString t) = List.compareLex Weight.order (weights s) (weights t) := by
  calc (ofString s).order (ofString t)
      = List.compareLex Run.order ((maximalRuns s.toList).map Run.ofText)
          ((maximalRuns t.toList).map Run.ofText) := by
        rw [← runs_eq, ← runs_eq]
        rfl
    _ = List.compareLex (fun a b => Run.order (.ofText a) (.ofText b)) (maximalRuns s.toList)
          (maximalRuns t.toList) := compareLex_map fun _ _ _ _ => rfl
    _ = List.compareLex Weight.order (weights s) (weights t) :=
        (compareLex_map fun a _ b _ => Run.ofText_order a b).symm

theorem RunKey.ofString_eq_iff (s t : String) :
    ofString s = ofString t ↔ (ofString s).order (ofString t) = .eq := by
  have hparts : (ofString s).order (ofString t) = .eq ↔ runs s.toList = runs t.toList := by
    apply compareLex_eq_eq_iff
    simp only [ofString, runs_eq, List.mem_map]
    rintro _ ⟨a, -, rfl⟩ _ ⟨b, -, rfl⟩
    exact Run.ofText_order_eq_iff a b
  rw [hparts, ofString, ofString, RunKey.mk.injEq]

/-- Keys compare as the lists of what the runs of their texts weigh. The comparison is a total order on the
keys: of two keys each is below the other exactly if that one is above it, comparing is transitive, and
keys that compare equal are equal. -/
theorem keys_ordered_by_weights (s t u : String) :
    (RunKey.ofString s).order (.ofString t) = List.compareLex Weight.order (weights s) (weights t) ∧
    (RunKey.ofString t).order (.ofString s) = ((RunKey.ofString s).order (.ofString t)).swap ∧
    (((RunKey.ofString s).order (.ofString t)).isLE → ((RunKey.ofString t).order (.ofString u)).isLE →
      ((RunKey.ofString s).order (.ofString u)).isLE) ∧
    (RunKey.ofString s = .ofString t ↔ (RunKey.ofString s).order (.ofString t) = .eq) :=
  ⟨RunKey.ofString_order s t, Std.OrientedCmp.eq_swap, Std.TransCmp.isLE_trans,
    RunKey.ofString_eq_iff s t⟩

theorem word_below_number_below_later_number :
    ((RunKey.ofString "1.1.Rc-1").order (.ofString "1é01_1W")).isLE ∧
    ((RunKey.ofString "1é01_1W").order (.ofString "1.1.18446744073709551616")).isLE ∧
    ((RunKey.ofString "1.1.Rc-1").order (.ofString "1.1.18446744073709551616")).isLE := by
  have hword : ((RunKey.ofString "1.1.Rc-1").order (.ofString "1é01_1W")).isLE := by decide +kernel
  have hnumber : ((RunKey.ofString "1é01_1W").order (.ofString "1.1.18446744073709551616")).isLE := by
    decide +kernel
  obtain ⟨-, -, htrans, -⟩ := keys_ordered_by_weights "1.1.Rc-1" "1é01_1W" "1.1.18446744073709551616"
  exact ⟨hword, hnumber, htrans hword hnumber⟩

end RecipePins.Version
