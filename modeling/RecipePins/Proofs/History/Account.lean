import RecipePins.History.Ranking
import RecipePins.Proofs.Text.Greatest
import RecipePins.Proofs.Text.Lines

/-!
# What a ranking accounts for

Every line of a history is passed over, gives an attribution, or is reported, and every listed version
without an attribution is reported too. A line that gives no attribution therefore changes the reports
at its own place and nothing else.
-/
namespace RecipePins.History

/-- What a line gives if it introduces a version: an attribution or a problem. -/
def readLine? (line : List Char) : Option (Except Problem Attribution) :=
  if introducesVersion (cleanLine line) then some (Entry.ofLine (cleanLine line)) else none

def attribution? (line : List Char) : Option Attribution :=
  (readLine? line).bind Except.toOption

def problem? (line : List Char) : Option Problem :=
  (readLine? line).bind fun
    | .error problem => some problem
    | .ok _ => none

def attributed (annotate : String) : List Attribution :=
  (Text.lines annotate.toList).filterMap attribution?

def isAttributed (annotate version : String) : Bool :=
  (attributed annotate).any (·.version == version)

/-- The problem is about this line: it has no columns, or it has them and the timestamp is none. -/
def Problem.Concerns (line : List Char) : Problem → Prop
  | unrecognised text => text = String.ofList line ∧ Entry.columns? line = none
  | badTimestamp text stamp =>
    text = String.ofList line ∧ Timestamp.ofChars? stamp.toList = none ∧
      ∃ version, Entry.columns? line = some (stamp.toList, version)
  | unattributed _ => False

/-- The problems of a ranking are those of the lines in order and then one for each listed version that has
no attribution; nothing is chosen exactly if this is every listed version. -/
structure Accounted (versions : List String) (annotate : String) (r : Ranking) : Prop where
  problems : r.problems = (Text.lines annotate.toList).filterMap problem? ++
    (versions.filter (!isAttributed annotate ·)).map .unattributed
  chosen : r.chosen = none ↔ ∀ v ∈ versions, Problem.unattributed v ∈ r.problems

/-- A ranking that goes over one more line, after some others: it differs in the report on that line, if
the line introduces a version, and in nothing else. -/
structure ReportsLine (before : List (List Char)) (line : List Char) (old new : Ranking) : Prop where
  chosen : new.chosen = old.chosen
  problems : ∃ rest, old.problems = before.filterMap problem? ++ rest ∧
    if introducesVersion (cleanLine line) then
      ∃ problem : Problem, problem.Concerns (cleanLine line) ∧
        new.problems = before.filterMap problem? ++ problem :: rest
    else new.problems = old.problems

theorem cleanLine_dropReturn (line : List Char) : cleanLine (Text.dropReturn line) = cleanLine line := by
  obtain h | h := Text.dropReturn_eq_or line
  · rw [h]
  · generalize Text.dropReturn line = s at h
    subst h
    rw [cleanLine, cleanLine, List.takeWhile_append]
    split
    · next hl =>
      rw [(List.takeWhile_prefix _).eq_of_length hl]
      exact (Text.trim_append_blank rfl).symm
    · rfl

theorem readLine?_nil : readLine? [] = none := by
  decide

theorem readLine?_dropReturn (line : List Char) : readLine? (Text.dropReturn line) = readLine? line := by
  rw [readLine?, readLine?, cleanLine_dropReturn]

/-- Reading the text is reading its lines. -/
theorem readAnnotate_eq (annotate : String) :
    readAnnotate annotate = (Text.lines annotate.toList).filterMap readLine? := by
  rw [Text.filterMap_lines readLine?_nil readLine?_dropReturn, readAnnotate, entryLines]
  induction Text.fields '\n' annotate.toList with
  | nil => rfl
  | cons line lines ih =>
    rw [List.filterMap_cons, readLine?, List.map_cons, List.filter_cons]
    split <;> simp [ih]

theorem attributions_readAnnotate (annotate : String) :
    attributions (readAnnotate annotate) = attributed annotate := by
  rw [attributions, readAnnotate_eq, List.filterMap_filterMap]
  rfl

theorem problems_readAnnotate (annotate : String) :
    problems (readAnnotate annotate) = (Text.lines annotate.toList).filterMap problem? := by
  rw [problems, readAnnotate_eq, List.filterMap_filterMap]
  rfl

theorem latestInstant?_isNone (known : List Attribution) (version : String) :
    (latestInstant? known version).isNone = !known.any (·.version == version) := by
  rw [Bool.eq_iff_iff, Option.isNone_iff_eq_none, latestInstant?, List.max?_eq_none_iff]
  simp

theorem attribution?_eq_some_iff {line : List Char} {a : Attribution} :
    attribution? line = some a ↔ introducesVersion (cleanLine line) = true ∧
      Entry.ofLine (cleanLine line) = .ok a := by
  rw [attribution?, readLine?]
  split
  · next hi =>
    simp only [hi, true_and, Option.bind_some]
    cases Entry.ofLine (cleanLine line) <;> simp [Except.toOption]
  · next hi => simp [hi]

theorem ofLine_concerns {line : List Char} {problem : Problem}
    (h : Entry.ofLine line = .error problem) : problem.Concerns line := by
  rw [Entry.ofLine] at h
  split at h
  · next hc =>
    cases h
    exact ⟨rfl, hc⟩
  · next stamp version hc =>
    split at h
    · next hs =>
      cases h
      simp [Problem.Concerns, hs, hc]
    · cases h

theorem problem?_eq_some {line : List Char} {problem : Problem} (h : problem? line = some problem) :
    problem.Concerns (cleanLine line) := by
  rw [problem?, readLine?] at h
  split at h
  · next hi =>
    cases ho : Entry.ofLine (cleanLine line) with
    | error p =>
      simp only [ho, Option.bind_some, Option.some.injEq] at h
      exact h ▸ ofLine_concerns ho
    | ok => simp [ho] at h
  · cases h

/-- What a line with no attribution reports: one problem if it introduces a version. -/
theorem problem?_of_attribution?_eq_none {line : List Char} (h : attribution? line = none) :
    if introducesVersion (cleanLine line) then
      ∃ problem, problem? line = some problem ∧ problem.Concerns (cleanLine line)
    else problem? line = none := by
  split
  · next hi =>
    cases ho : Entry.ofLine (cleanLine line) with
    | error problem =>
      have hp : problem? line = some problem := by simp [problem?, readLine?, hi, ho]
      exact ⟨problem, hp, problem?_eq_some hp⟩
    | ok a => simp [attribution?, readLine?, hi, ho, Except.toOption] at h
  · next hi => simp [problem?, readLine?, hi]

theorem rank_problems (versions : List String) (annotate : String) (starts : List String) :
    (rank versions annotate starts).problems =
      (Text.lines annotate.toList).filterMap problem? ++
        (versions.filter (!isAttributed annotate ·)).map .unattributed := by
  rw [rank, problems_readAnnotate, attributions_readAnnotate]
  simp only [latestInstant?_isNone, isAttributed]

/-- Only the attributions of a history decide which version is chosen. -/
theorem rank_chosen_congr {annotate annotate' : String} (h : attributed annotate = attributed annotate')
    (versions starts : List String) :
    (rank versions annotate starts).chosen = (rank versions annotate' starts).chosen := by
  simp only [rank, attributions_readAnnotate, h]

theorem rank_chosen_eq_none (versions : List String) (annotate : String) (starts : List String) :
    (rank versions annotate starts).chosen = none ↔ ∀ v ∈ versions, isAttributed annotate v = false := by
  have hnone (v : String) :
      Candidate.ofVersion? (attributed annotate) starts v = none ↔ isAttributed annotate v = false := by
    rw [Candidate.ofVersion?, Option.map_eq_none_iff, ← Option.isNone_iff_eq_none, latestInstant?_isNone,
      Bool.not_eq_true', isAttributed]
  rw [rank, attributions_readAnnotate, Option.map_eq_none_iff, Text.greatest?_eq_none,
    List.filterMap_eq_nil_iff]
  simp only [hnone]

theorem unattributed_mem_rank_problems (versions : List String) (annotate : String) (starts : List String)
    (v : String) : Problem.unattributed v ∈ (rank versions annotate starts).problems ↔
      v ∈ versions ∧ isAttributed annotate v = false := by
  have hline : Problem.unattributed v ∉ (Text.lines annotate.toList).filterMap problem? := by
    intro hm
    obtain ⟨line, -, hp⟩ := List.mem_filterMap.1 hm
    exact problem?_eq_some hp
  simp [rank_problems, hline]

theorem rank_accounted (versions : List String) (annotate : String) (starts : List String) :
    Accounted versions annotate (rank versions annotate starts) where
  problems := rank_problems versions annotate starts
  chosen := by
    rw [rank_chosen_eq_none]
    simp +contextual [unattributed_mem_rank_problems]

theorem attributed_insert {annotate grown : String} {before after : List (List Char)} {line : List Char}
    (h : Text.lines annotate.toList = before ++ after)
    (hg : Text.lines grown.toList = before ++ line :: after) (hl : attribution? line = none) :
    attributed grown = attributed annotate := by
  rw [attributed, attributed, h, hg, List.filterMap_append, List.filterMap_append,
    List.filterMap_cons_none hl]

theorem rank_reportsLine {annotate grown : String} {before after : List (List Char)} {line : List Char}
    (h : Text.lines annotate.toList = before ++ after)
    (hg : Text.lines grown.toList = before ++ line :: after) (hl : attribution? line = none)
    (versions starts : List String) :
    ReportsLine before line (rank versions annotate starts) (rank versions grown starts) := by
  have ha := attributed_insert h hg hl
  have hp (v : String) : isAttributed grown v = isAttributed annotate v := by
    rw [isAttributed, isAttributed, ha]
  refine ⟨rank_chosen_congr ha versions starts, after.filterMap problem? ++
    (versions.filter (!isAttributed annotate ·)).map .unattributed, ?_, ?_⟩
  · rw [rank_problems, h, List.filterMap_append, List.append_assoc]
  · have hline := problem?_of_attribution?_eq_none hl
    simp only [rank_problems, h, hg, hp, List.filterMap_append, List.append_assoc]
    split at hline
    · next hi =>
      obtain ⟨problem, hs, hc⟩ := hline
      rw [if_pos hi, List.filterMap_cons_some hs]
      exact ⟨problem, hc, rfl⟩
    · next hi => rw [if_neg hi, List.filterMap_cons_none hline]

/-- Malformed history is accounted for and does no harm: the reports of a ranking are complete and in
order, and a line without an attribution, wherever it is put in, leaves the choice as it is and adds at
most the report on itself. -/
theorem malformed_line_isolated (versions : List String) (annotate : String) (starts : List String) :
    Accounted versions annotate (rank versions annotate starts) ∧
    ∀ (grown : String) (before after : List (List Char)) (line : List Char),
      Text.lines annotate.toList = before ++ after →
      Text.lines grown.toList = before ++ line :: after → attribution? line = none →
      ReportsLine before line (rank versions annotate starts) (rank versions grown starts) :=
  ⟨rank_accounted versions annotate starts, fun _ _ _ _ h hg hl => rank_reportsLine h hg hl versions starts⟩

def ofLines (lines : List (List Char)) : String :=
  String.ofList (lines.flatMap (· ++ ['\n']))

theorem lines_ofLines {ls : List (List Char)}
    (h : ∀ line ∈ ls, '\n' ∉ line ∧ line.getLast? ≠ some '\r') : Text.lines (ofLines ls).toList = ls := by
  rw [ofLines, String.toList_ofList, Text.lines_flatMap h]

def soundLine : List Char :=
  "aaaaaaa (<a@b.c> 2023-03-01 08:00:00 +0000 2)   \"1.0\":".toList

def undatedLine : List Char :=
  "bbbbbbb (<a@b.c> 2023-13-45 08:00:00 +0000 4)   \"2.0-beta\":".toList

theorem garbage_between_entries_reported :
    ReportsLine [soundLine] "garbage that ends with a colon:".toList
      (rank ["1.0", "2.0-beta"] (ofLines [soundLine, undatedLine]) ["cci."])
      (rank ["1.0", "2.0-beta"]
        (ofLines [soundLine, "garbage that ends with a colon:".toList, undatedLine]) ["cci."]) :=
  (malformed_line_isolated _ _ _).2 _ _ [undatedLine] _ (lines_ofLines (by decide +kernel))
    (lines_ofLines (by decide +kernel)) (by decide +kernel)

end RecipePins.History
