import RecipePins.Proofs.History.Restamp
import RecipePins.Proofs.Version.Beginning
import RecipePins.Proofs.Version.Runs

/-!
# Which version a history chooses

Of the listed versions that the history attributes, ranking chooses the one whose latest instant is
greatest; versions of one instant go by what the runs weigh of what is left of them without a beginning that
is passed over, and versions that weigh the same by the bytes of their text.
The choice is determined by what the lists have in them: neither their order nor repeated members nor the
offset in which an instant is written matters.
-/
namespace RecipePins.History
open Version

/-- A line of the history gives the version at the instant. -/
def AttributedAt (annotate version : String) (i : Int) : Prop :=
  ∃ a ∈ attributed annotate, a.version = version ∧ a.timestamp.instant = i

/-- The latest instant at which the history gives the version. -/
def LatestAt (annotate version : String) (i : Int) : Prop :=
  AttributedAt annotate version i ∧ ∀ j, AttributedAt annotate version j → j ≤ i

/-- One version was added before another, or at one instant and what is left of it weighs less, or also weighs
the same and its bytes come first. -/
def RanksBelow (annotate : String) (starts : List String) (v w : String) : Prop :=
  ∃ i j, LatestAt annotate v i ∧ LatestAt annotate w j ∧ (i < j ∨ i = j ∧
    ∃ v' w', LeftOver starts v v' ∧ LeftOver starts w w' ∧
      (List.compareLex Weight.order (weights v') (weights w') = .lt ∨
        List.compareLex Weight.order (weights v') (weights w') = .eq ∧ Text.bytes v < Text.bytes w))

/-- A listed version with an attribution, above every other one. -/
structure IsChosen (versions : List String) (annotate : String) (starts : List String) (v : String) :
    Prop where
  listed : v ∈ versions
  attributed : ∃ i, AttributedAt annotate v i
  greatest : ∀ w ∈ versions, (∃ i, AttributedAt annotate w i) → w ≠ v → RanksBelow annotate starts w v

instance : Std.TransCmp Candidate.order :=
  have : Std.TransCmp fun a b : Candidate => a.key.order b.key :=
    { eq_swap := Std.OrientedCmp.eq_swap, isLE_trans := Std.TransCmp.isLE_trans }
  inferInstanceAs (Std.TransCmp (compareLex (compareOn Candidate.instant)
    (compareLex (fun a b => a.key.order b.key) (compareOn Candidate.version))))

theorem order_eq_lt_iff {a b : Candidate} : a.order b = .lt ↔ a.instant < b.instant ∨
    a.instant = b.instant ∧ (a.key.order b.key = .lt ∨
      a.key.order b.key = .eq ∧ Text.bytes a.version < Text.bytes b.version) := by
  simp only [Candidate.order, Ordering.then_eq_lt, Std.LawfulEqOrd.compare_eq_iff_eq,
    Text.compare_eq_lt_iff_bytes, Int.compare_eq_lt]

theorem latestInstant?_eq_some_iff {annotate version : String} {i : Int} :
    latestInstant? (attributed annotate) version = some i ↔ LatestAt annotate version i := by
  rw [latestInstant?, List.max?_eq_some_iff]
  simp only [List.mem_map, List.mem_filter, beq_iff_eq, and_assoc, LatestAt, AttributedAt]

theorem LatestAt.unique {annotate version : String} {i j : Int} (hi : LatestAt annotate version i)
    (hj : LatestAt annotate version j) : i = j :=
  Int.le_antisymm (hj.2 i hi.1) (hi.2 j hj.1)

theorem exists_latestAt {annotate version : String} (h : ∃ i, AttributedAt annotate version i) :
    ∃ i, LatestAt annotate version i := by
  obtain ⟨i, a, ha, hv, -⟩ := h
  cases hl : latestInstant? (attributed annotate) version with
  | some j => exact ⟨j, latestInstant?_eq_some_iff.1 hl⟩
  | none =>
    have hn := latestInstant?_isNone (attributed annotate) version
    rw [hl, Option.isNone_none, eq_comm, Bool.not_eq_true', List.any_eq_false] at hn
    exact absurd (beq_iff_eq.2 hv) (hn a ha)

def Candidate.at (starts : List String) (version : String) (i : Int) : Candidate :=
  ⟨i, .stripped starts version, version⟩

theorem mem_candidates_iff {versions starts : List String} {annotate : String} {c : Candidate} :
    c ∈ versions.filterMap (Candidate.ofVersion? (attributed annotate) starts) ↔
      ∃ v ∈ versions, ∃ i, LatestAt annotate v i ∧ c = .at starts v i := by
  simp only [List.mem_filterMap, Candidate.ofVersion?, Option.map_eq_some_iff,
    latestInstant?_eq_some_iff, Candidate.at, @eq_comm _ c]

/-- What is left of versions weighs as their keys are ordered. -/
theorem ranksBelow_iff_stripped {annotate : String} {starts : List String} {v w : String} :
    RanksBelow annotate starts v w ↔
      ∃ i j, LatestAt annotate v i ∧ LatestAt annotate w j ∧ (i < j ∨ i = j ∧
        ((RunKey.stripped starts v).order (.stripped starts w) = .lt ∨
          (RunKey.stripped starts v).order (.stripped starts w) = .eq ∧ Text.bytes v < Text.bytes w)) := by
  refine exists_congr fun i => exists_congr fun j => and_congr_right fun _ => and_congr_right fun _ =>
    or_congr_right (and_congr_right fun _ => ?_)
  constructor
  · rintro ⟨v', w', hv, hw, h⟩
    rwa [hv.stripped_eq, hw.stripped_eq, RunKey.ofString_order]
  · intro h
    obtain ⟨v', hv⟩ := exists_leftOver starts v
    obtain ⟨w', hw⟩ := exists_leftOver starts w
    rw [hv.stripped_eq, hw.stripped_eq, RunKey.ofString_order] at h
    exact ⟨v', w', hv, hw, h⟩

theorem at_order_at {annotate : String} {starts : List String} {v w : String} {i j : Int}
    (hi : LatestAt annotate v i) (hj : LatestAt annotate w j) :
    (Candidate.at starts v i).order (.at starts w j) = .lt ↔ RanksBelow annotate starts v w := by
  rw [order_eq_lt_iff, ranksBelow_iff_stripped]
  constructor
  · exact fun h => ⟨i, j, hi, hj, h⟩
  · rintro ⟨i', j', hi', hj', h⟩
    obtain rfl := hi.unique hi'
    obtain rfl := hj.unique hj'
    exact h

theorem rank_chosen_eq_some_iff {versions : List String} {annotate : String} {starts : List String}
    {v : String} :
    (rank versions annotate starts).chosen = some v ↔ IsChosen versions annotate starts v := by
  have hne : ∀ a ∈ versions.filterMap (Candidate.ofVersion? (attributed annotate) starts),
      ∀ b ∈ versions.filterMap (Candidate.ofVersion? (attributed annotate) starts),
      a.order b = .eq → a = b := by
    simp only [mem_candidates_iff]
    rintro _ ⟨v, -, i, hi, rfl⟩ _ ⟨w, -, j, hj, rfl⟩ he
    simp only [Candidate.order, Ordering.then_eq_eq, Std.LawfulEqOrd.compare_eq_iff_eq] at he
    obtain rfl : v = w := he.2.2
    rw [hi.unique hj]
  simp only [rank, attributions_readAnnotate, Option.map_eq_some_iff, Text.greatest?_eq_some_iff hne,
    mem_candidates_iff]
  constructor
  · rintro ⟨_, ⟨⟨w, hw, i, hi, rfl⟩, hlt⟩, rfl⟩
    refine ⟨hw, ⟨i, hi.1⟩, fun u hu ha hne => ?_⟩
    obtain ⟨j, hj⟩ := exists_latestAt ha
    exact (at_order_at hj hi).1 (hlt _ ⟨u, hu, j, hj, rfl⟩ fun he => hne (congrArg Candidate.version he))
  · rintro ⟨hv, ha, hlt⟩
    obtain ⟨i, hi⟩ := exists_latestAt ha
    refine ⟨.at starts v i, ⟨⟨v, hv, i, hi, rfl⟩, ?_⟩, rfl⟩
    rintro _ ⟨w, hw, j, hj, rfl⟩ hne
    by_cases hwv : w = v
    · subst hwv
      exact absurd (by rw [hj.unique hi]) hne
    · exact (at_order_at hj hi).2 (hlt w hw ⟨j, hj.1⟩ hwv)

def given? (line : List Char) : Option (String × Int) :=
  (attribution? line).map fun a => (a.version, a.timestamp.instant)

theorem attributedAt_iff {annotate version : String} {i : Int} :
    AttributedAt annotate version i ↔ some (version, i) ∈ (Text.lines annotate.toList).map given? := by
  simp only [AttributedAt, attributed, given?, List.mem_filterMap, List.mem_map, Option.map_eq_some_iff,
    Prod.mk.injEq]
  constructor
  · rintro ⟨a, ⟨line, hm, ha⟩, hv, hi⟩
    exact ⟨line, hm, a, ha, hv, hi⟩
  · rintro ⟨line, hm, a, ha, hv, hi⟩
    exact ⟨a, ⟨line, hm, ha⟩, hv, hi⟩

/-- What is listed and what is given at which instants is all that decides. -/
theorem rank_chosen_eq {versions versions' : List String} {annotate annotate' : String}
    (hv : ∀ v, v ∈ versions' ↔ v ∈ versions)
    (ha : ∀ v i, AttributedAt annotate' v i ↔ AttributedAt annotate v i) (starts : List String) :
    (rank versions' annotate' starts).chosen = (rank versions annotate starts).chosen := by
  have hlatest (v : String) (i : Int) : LatestAt annotate' v i ↔ LatestAt annotate v i := by
    simp only [LatestAt, ha]
  have hbelow (v w : String) : RanksBelow annotate' starts v w ↔ RanksBelow annotate starts v w := by
    simp only [RanksBelow, hlatest]
  apply Option.ext
  intro v
  rw [rank_chosen_eq_some_iff, rank_chosen_eq_some_iff]
  constructor
  · intro h
    exact ⟨(hv v).1 h.listed, by simpa only [ha] using h.attributed,
      by simpa only [hv, ha, hbelow] using h.greatest⟩
  · intro h
    exact ⟨(hv v).2 h.listed, by simpa only [ha] using h.attributed,
      by simpa only [hv, ha, hbelow] using h.greatest⟩

theorem exists_chosen_iff {versions : List String} {annotate : String} {starts : List String} :
    (∃ v, (rank versions annotate starts).chosen = some v) ↔
      ∃ v ∈ versions, ∃ i, AttributedAt annotate v i := by
  rw [← Option.ne_none_iff_exists', ne_eq, rank_chosen_eq_none]
  simp [isAttributed, AttributedAt]

theorem map_given?_of_restamped {lines lines' : List (List Char)}
    (h : List.Forall₂ Restamped lines lines') (hn : ∀ line ∈ lines, '\n' ∉ line) :
    lines'.map given? = lines.map given? := by
  induction h with
  | nil => rfl
  | @cons line _ _ _ hline _ ih =>
    rw [List.map_cons, List.map_cons, ih fun l hl => hn l (List.mem_cons_of_mem line hl), given?, given?,
      hline.attribution? (hn line List.mem_cons_self)]

/-- A history chooses the listed version that it gives last, and nothing exactly if it gives none of
them. Which order the lists have, what they repeat and in which offsets the instants are written does not
matter; and every line that gives a version has a place where its timestamp can be written anew. -/
theorem latest_given_version_chosen (versions : List String) (annotate : String) (starts : List String) :
    (∀ v, (rank versions annotate starts).chosen = some v ↔ IsChosen versions annotate starts v) ∧
    ((∃ v, (rank versions annotate starts).chosen = some v) ↔
      ∃ v ∈ versions, ∃ i, AttributedAt annotate v i) ∧
    (∀ versions' annotate', (∀ v, v ∈ versions' ↔ v ∈ versions) →
      (∀ line, line ∈ Text.lines annotate'.toList ↔ line ∈ Text.lines annotate.toList) →
      (rank versions' annotate' starts).chosen = (rank versions annotate starts).chosen) ∧
    (∀ annotate', List.Forall₂ Restamped (Text.lines annotate.toList) (Text.lines annotate'.toList) →
      (rank versions annotate' starts).chosen = (rank versions annotate starts).chosen) ∧
    ∀ line ∈ Text.lines annotate.toList, ∀ a, attribution? line = some a →
      ∃ front stamp back, line = front ++ (stamp ++ back) ∧ StampPlace a front stamp back := by
  refine ⟨fun v => rank_chosen_eq_some_iff, exists_chosen_iff, ?_, ?_, ?_⟩
  · intro versions' annotate' hv hl
    apply rank_chosen_eq hv
    simp [attributedAt_iff, hl]
  · intro annotate' hl
    apply rank_chosen_eq (fun _ => Iff.rfl)
    have hgiven := map_given?_of_restamped hl fun line => Text.newline_not_mem_of_mem_lines
    simp only [attributedAt_iff, hgiven, implies_true]
  · intro line hm a ha
    exact exists_stampPlace (Text.newline_not_mem_of_mem_lines hm) ha

def olderHead : LineHead :=
  .byAuthor "<jane@example.com>".toList (by decide) (by decide)

/-- The same columns in another zone. -/
def olderHeadInUtc : LineHead :=
  olderHead.dated (show Timestamp.ofChars? "2022-11-08 19:49:32 +0000".toList =
    some ⟨2022, 11, 8, 19, 49, 32, 0⟩ by decide)

def olderLine (head : LineHead) : List Char :=
  head.text ++ VersionLine.quoted.text

/-- A history that gives two identifiers at once, one of them with a beginning. -/
def datedAtOnce : String :=
  ofLines ["815109b9a45 (<jane> 2022-11-08 20:49:32 +0100 2) \"cci.20200101\":".toList,
    "815109b9a45 (<jane> 2022-11-08 20:49:32 +0100 4) \"20190101\":".toList]

theorem later_line_chosen_however_written :
    IsChosen ["1.0", "1.3.5"] (ofLines [soundLine, olderLine olderHead]) ["cci."] "1.0" ∧
    (rank ["1.3.5", "1.0", "1.3.5"] (ofLines [olderLine olderHead, soundLine, olderLine olderHead])
        ["cci."]).chosen =
      (rank ["1.0", "1.3.5"] (ofLines [soundLine, olderLine olderHead]) ["cci."]).chosen ∧
    (rank ["1.0", "1.3.5"] (ofLines [soundLine, olderLine olderHeadInUtc]) ["cci."]).chosen =
      (rank ["1.0", "1.3.5"] (ofLines [soundLine, olderLine olderHead]) ["cci."]).chosen ∧
    (∃ front stamp back, soundLine = front ++ (stamp ++ back) ∧
      StampPlace ⟨"1.0", ⟨2023, 3, 1, 8, 0, 0, 0⟩⟩ front stamp back) ∧
    IsChosen ["cci.20200101", "20190101"] datedAtOnce ["v", "cci."] "cci.20200101" ∧
    IsChosen ["cci.20200101", "20190101"] datedAtOnce ["v"] "20190101" := by
  have swap {α : Type} (a b x : α) : x ∈ [b, a, b] ↔ x ∈ [a, b] := by
    simp only [List.mem_cons, List.not_mem_nil, or_false]
    tauto
  have hlines : Text.lines (ofLines [soundLine, olderLine olderHead]).toList =
      [soundLine, olderLine olderHead] := lines_ofLines (by decide +kernel)
  have hutc : Text.lines (ofLines [soundLine, olderLine olderHeadInUtc]).toList =
      [soundLine, olderLine olderHeadInUtc] := lines_ofLines (by decide +kernel)
  have hmixed : Text.lines (ofLines [olderLine olderHead, soundLine, olderLine olderHead]).toList =
      [olderLine olderHead, soundLine, olderLine olderHead] := lines_ofLines (by decide +kernel)
  obtain ⟨hchosen, -, hmembers, hrestamped, hplace⟩ :=
    latest_given_version_chosen ["1.0", "1.3.5"] (ofLines [soundLine, olderLine olderHead]) ["cci."]
  obtain ⟨htaken, -⟩ := latest_given_version_chosen ["cci.20200101", "20190101"] datedAtOnce ["v", "cci."]
  obtain ⟨hwhole, -⟩ := latest_given_version_chosen ["cci.20200101", "20190101"] datedAtOnce ["v"]
  refine ⟨(hchosen "1.0").1 (by decide +kernel), hmembers _ _ (swap _ _) ?_, hrestamped _ ?_,
    hplace soundLine ?_ _ (by decide +kernel), (htaken _).1 (by decide +kernel),
    (hwhole _).1 (by decide +kernel)⟩
  · rw [hmixed, hlines]
    exact swap soundLine (olderLine olderHead)
  · have holder := olderHead.stampPlace VersionLine.quoted (by decide +kernel) (by decide +kernel)
    rw [hlines, hutc, olderLine, olderLine, olderHeadInUtc, LineHead.dated_text_append,
      LineHead.text_append_eq_place]
    exact .cons (.same _) (.cons (.entry holder olderHeadInUtc.stamp_reads (by decide)) .nil)
  · rw [hlines]
    exact List.mem_cons_self

end RecipePins.History
