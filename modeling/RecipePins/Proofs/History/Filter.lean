import RecipePins.History.Ranking
import RecipePins.Proofs.Text.Fields
import RecipePins.Proofs.History.Columns

/-!
# Which annotated lines are read

A line is cut at its first number sign, and it is passed over in silence if it holds one of the words that
mark the sections and the fields of a descriptor. Both rules are put to the whole line. So the columns of
the commit leave the line of the descriptor to decide as long as they hold neither, and only so long.
-/
namespace RecipePins.History

/-- The words by which a line is known to introduce no version. -/
def sectionWords : List (List Char) :=
  ["versions".toList, "folder".toList]

/-- A text with neither a number sign nor one of these words. -/
def Clear (s : List Char) : Prop :=
  '#' ∉ s ∧ ∀ w ∈ sectionWords, ¬ w <:+: s

instance (s : List Char) : Decidable (Clear s) :=
  inferInstanceAs (Decidable (_ ∧ _))

theorem introducesVersion_iff (s : List Char) :
    introducesVersion s = true ↔ (∀ w ∈ sectionWords, ¬ w <:+: s) ∧ s.getLast? = some ':' := by
  simp [introducesVersion, sectionWords, ← Text.contains_iff_infix]

theorem isLower_of_mem_sectionWords {w : List Char} (hw : w ∈ sectionWords) :
    ∀ c ∈ w, c.isLower = true := by
  have hall : (sectionWords.all fun w => w.all Char.isLower) = true := by decide
  exact List.all_eq_true.1 (List.all_eq_true.1 hall w hw)

theorem takeWhile_append_of_not_mem {a : List Char} (ha : '#' ∉ a) (s : List Char) :
    (a ++ s).takeWhile (· != '#') = a ++ s.takeWhile (· != '#') := by
  refine List.takeWhile_append_of_pos fun c hc => ?_
  simp only [bne_iff_ne]
  rintro rfl
  exact ha hc

theorem takeWhile_append_of_mem {a : List Char} (ha : '#' ∈ a) (s : List Char) :
    (a ++ s).takeWhile (· != '#') = a.takeWhile (· != '#') := by
  rw [List.takeWhile_append, if_neg]
  intro hl
  have hall := (List.takeWhile_prefix (· != '#')).eq_of_length hl
  have hp := List.takeWhile_eq_self_iff.1 hall '#' ha
  simp at hp

/-- What is left of a descriptor line after its columns: its comment and the blanks at its end are gone. -/
def cutContent (content : List Char) : List Char :=
  Text.trimEnd (content.takeWhile (· != '#'))

namespace LineHead

variable (h : LineHead)

/-- The columns that hold text of the commit's own. -/
def columns : List (List Char) :=
  h.revision :: (h.file?.toList ++ [h.author])

/-- Besides the columns, the text has separators, digits and signs only. -/
theorem mem_text {c : Char} (hc : c ∈ h.text) :
    (∃ column ∈ h.columns, c ∈ column) ∨ c.isDigit = true ∨ c ∈ "^( +-:)".toList := by
  have separator : " +-:)".toList ⊆ "^( +-:)".toList := by decide
  simp only [text, List.mem_append, List.mem_cons] at hc
  rcases hc with hm | rfl | hm | rfl | hm | hm | rfl | hm
  · rw [revisionText, List.mem_append] at hm
    rcases hm with hm | hm
    · right; right
      split at hm
      · rw [List.mem_singleton.1 hm]
        decide
      · cases hm
    · exact .inl ⟨h.revision, by simp [columns], hm⟩
  · exact .inr (.inr (by decide))
  · rw [fileText] at hm
    split at hm
    · next file hf =>
      rcases List.mem_append.1 hm with hm | hm
      · exact .inl ⟨file, by simp [columns, hf], hm⟩
      · rw [List.mem_singleton.1 hm]
        exact .inr (.inr (by decide))
    · cases hm
  · exact .inr (.inr (by decide))
  · exact .inl ⟨h.author, by simp [columns], hm⟩
  · rw [List.eq_of_mem_replicate hm]
    exact .inr (.inr (by decide))
  · exact .inr (.inr (by decide))
  · exact .inr ((h.mem_stampText hm).imp id fun hm => separator hm)

theorem mem_text_of_mem_column {column : List Char} (hm : column ∈ h.columns) {c : Char}
    (hc : c ∈ column) : c ∈ h.text := by
  simp only [columns, List.mem_cons, List.mem_append, Option.mem_toList, List.not_mem_nil,
    or_false] at hm
  rcases hm with rfl | hf | rfl
  · simp [text, revisionText, hc]
  · simp [text, fileText, Option.mem_def.1 hf, hc]
  · simp [text, hc]

theorem number_sign_mem_text : '#' ∈ h.text ↔ ∃ column ∈ h.columns, '#' ∈ column := by
  constructor
  · intro hm
    exact (h.mem_text hm).resolve_right (by decide)
  · rintro ⟨column, hm, hc⟩
    exact h.mem_text_of_mem_column hm hc

theorem number_sign_not_mem_text (hs : ∀ column ∈ h.columns, '#' ∉ column) : '#' ∉ h.text := by
  rw [number_sign_mem_text]
  rintro ⟨column, hm, hc⟩
  exact hs column hm hc

theorem newline_not_mem_text : '\n' ∉ h.text := by
  intro hm
  obtain ⟨column, hm, hc⟩ := (h.mem_text hm).resolve_right (by decide)
  simp only [columns, List.mem_cons, List.mem_append, Option.mem_toList, List.not_mem_nil,
    or_false] at hm
  rcases hm with rfl | hf | rfl
  · exact absurd (h.revision_word _ hc) (by decide)
  · exact absurd (h.file_plain column hf _ hc) (by decide)
  · exact h.author_line hc

/-- A word of small letters stands in one of the columns or in what follows them. -/
theorem infix_text_append_iff {w : List Char} (hw : ∀ c ∈ w, c.isLower = true) (content : List Char) :
    w <:+: h.text ++ content ↔ (∃ column ∈ h.columns, w <:+: column) ∨ w <:+: content := by
  have lacks {c : Char} (hc : c.isLower = false) : c ∉ w := fun hm => by
    rw [hw c hm] at hc
    cases hc
  have hstamp : ∀ c ∈ spaces h.beforeStamp ++ ' ' :: h.stampText, c ∉ w := by
    have hsep : (" +-:)".toList.all (!·.isLower)) = true := by decide
    intro c hc
    rcases List.mem_append.1 hc with hc | hc
    · rw [List.eq_of_mem_replicate hc]
      exact lacks rfl
    · rcases List.mem_cons.1 hc with rfl | hc
      · exact lacks rfl
      · exact lacks ((h.mem_stampText hc).elim Text.isLower_of_isDigit fun hc => by
          simpa using List.all_eq_true.1 hsep c hc)
  have hauthor : w <:+: h.author ++ ((spaces h.beforeStamp ++ ' ' :: h.stampText) ++ content) ↔
      w <:+: h.author ∨ w <:+: content :=
    Text.infix_append_append_iff (by simp) hstamp
  have hparen (s : List Char) : w <:+: '(' :: s ↔ w <:+: s :=
    Text.infix_append_of_lacks (m := ['(']) (by simpa using lacks rfl)
  have hrevision (s : List Char) : w <:+: h.revisionText ++ ' ' :: s ↔ w <:+: h.revision ∨ w <:+: s := by
    rw [revisionText, List.append_assoc, Text.infix_append_of_lacks,
      Text.infix_append_cons_iff (lacks rfl)]
    intro c hc
    split at hc
    · rw [List.mem_singleton.1 hc]
      exact lacks rfl
    · cases hc
  have htext : h.text ++ content = h.revisionText ++ ' ' :: (h.fileText ++ '(' ::
      (h.author ++ ((spaces h.beforeStamp ++ ' ' :: h.stampText) ++ content))) := by
    simp [text]
  rw [htext, hrevision, fileText, columns]
  cases hf : h.file? with
  | none =>
    rw [List.nil_append, hparen, hauthor]
    simp [or_assoc]
  | some file =>
    rw [List.append_assoc, List.singleton_append, Text.infix_append_cons_iff (lacks rfl), hparen, hauthor]
    simp [or_assoc]

theorem text_eq_append_paren : ∃ before, h.text = before ++ [')'] :=
  ⟨h.revisionText ++ ' ' :: (h.fileText ++ '(' :: (h.author ++ (spaces h.beforeStamp ++ ' ' ::
    (h.stamp ++ (spaces h.beforeNumber ++ ' ' :: h.number))))), by simp [text, stampText]⟩

theorem text_dropWhile (s : List Char) : (h.text ++ s).dropWhile Text.isBlank = h.text ++ s := by
  have hne : h.revisionText ≠ [] := by simp [revisionText, h.revision_ne]
  have hplain : ∀ c ∈ h.revisionText, Text.isBlank c = false := by
    intro c hc
    rw [revisionText] at hc
    rcases List.mem_append.1 hc with hc | hc
    · split at hc
      · rw [List.mem_singleton.1 hc]
        rfl
      · cases hc
    · exact Text.isBlank_of_isWord (h.revision_word c hc)
  rw [text, List.append_assoc]
  exact dropWhile_append_of_neg hne hplain

/-- Columns without a number sign stay as they are, and what follows them is cut as if it stood alone. -/
theorem cleanLine_text_append (hs : '#' ∉ h.text) (content : List Char) :
    cleanLine (h.text ++ content) = h.text ++ cutContent content := by
  obtain ⟨before, hb⟩ := h.text_eq_append_paren
  rw [cleanLine, takeWhile_append_of_not_mem hs, Text.trim, text_dropWhile, hb, List.append_assoc,
    List.singleton_append, Text.trimEnd_append_cons rfl, cutContent, List.append_assoc,
    List.singleton_append]

end LineHead

theorem introducesVersion_text_append (h : LineHead) (content : List Char)
    (hc : ∀ column ∈ h.columns, ∀ w ∈ sectionWords, ¬ w <:+: column) :
    introducesVersion (h.text ++ cutContent content) = introducesVersion (cleanLine content) := by
  obtain ⟨blanks, hblank, hcut, hempty⟩ :=
    Text.trimEnd_eq_append_trim (content.takeWhile (· != '#'))
  rw [Bool.eq_iff_iff, introducesVersion_iff, introducesVersion_iff]
  refine and_congr ?_ ?_
  · refine forall₂_congr fun w hw => not_congr ?_
    have hlower := isLower_of_mem_sectionWords hw
    rw [h.infix_text_append_iff hlower, cutContent, hcut, Text.infix_append_of_lacks]
    · exact or_iff_right fun ⟨column, hm, hi⟩ => hc column hm w hw hi
    · intro c hb hm
      have hne := hblank c hb
      rw [Text.isBlank_of_isLower (hlower c hm)] at hne
      cases hne
  · obtain ⟨before, hb⟩ := h.text_eq_append_paren
    rw [cutContent, hcut]
    change _ ↔ (Text.trim (content.takeWhile (· != '#'))).getLast? = some ':'
    cases ht : Text.trim (content.takeWhile (· != '#')) with
    | nil =>
      rw [hempty ht, hb]
      simp
    | cons c rest => simp

/-- A text without line ends is one line. -/
theorem entryLines_eq {s : List Char} (hs : '\n' ∉ s) :
    entryLines s = if introducesVersion (cleanLine s) then [cleanLine s] else [] := by
  rw [entryLines, Text.fields_eq_singleton hs, List.map_singleton, List.filter_singleton, cond_eq_ite]

theorem LineHead.newline_not_mem_append (h : LineHead) {content : List Char} (hn : '\n' ∉ content) :
    '\n' ∉ h.text ++ content := by
  simp [h.newline_not_mem_text, hn]

/-- As long as its columns are clear, a line is an entry line if what follows them is one. -/
theorem entryLines_text_append (h : LineHead) (hc : ∀ column ∈ h.columns, Clear column)
    {content : List Char} (hn : '\n' ∉ content) :
    entryLines (h.text ++ content) =
      if introducesVersion (cleanLine content) then [h.text ++ cutContent content] else [] := by
  have hs : '#' ∉ h.text := h.number_sign_not_mem_text fun column hm => (hc column hm).1
  rw [entryLines_eq (h.newline_not_mem_append hn), h.cleanLine_text_append hs,
    introducesVersion_text_append h content fun column hm => (hc column hm).2]

namespace VersionLine

variable (e : VersionLine)

theorem text_eq_append_colon : ∃ before, e.text = before ++ [':'] :=
  ⟨spaces e.indent ++ ' ' :: (e.quote?.toList ++ (e.version ++ e.quote?.toList)), by
    simp [text, entry]⟩

theorem number_sign_not_mem_text (hc : Clear e.version) : '#' ∉ e.text := by
  have hquote : '#' ∉ e.quote?.toList := fun hm =>
    absurd (e.quote_mark '#' (Option.mem_toList.1 hm)) (by decide)
  have hspaces : '#' ∉ spaces e.indent := fun hm => by
    cases List.eq_of_mem_replicate hm
  simp [text, entry, hspaces, hquote, hc.1]

theorem takeWhile_text (hc : Clear e.version) : e.text.takeWhile (· != '#') = e.text := by
  rw [List.takeWhile_eq_self_iff]
  intro c hm
  simp only [bne_iff_ne]
  rintro rfl
  exact e.number_sign_not_mem_text hc hm

theorem cutContent_text (hc : Clear e.version) : cutContent e.text = e.text := by
  obtain ⟨before, hb⟩ := e.text_eq_append_colon
  rw [cutContent, e.takeWhile_text hc, hb]
  exact Text.trimEnd_append_cons rfl

theorem cleanLine_text (hc : Clear e.version) : cleanLine e.text = e.entry := by
  have hdrop : e.text.dropWhile Text.isBlank = e.entry := by
    rw [text, List.append_cons, List.dropWhile_append_of_pos, e.entry_dropWhile fun _ => id]
    intro c hm
    rw [eq_space_of_mem hm]
    rfl
  rw [cleanLine, e.takeWhile_text hc, Text.trim, hdrop, entry, ← List.append_assoc, ← List.append_assoc]
  exact Text.trimEnd_append_cons rfl

theorem introducesVersion_entry (hc : Clear e.version) : introducesVersion e.entry = true := by
  rw [introducesVersion_iff]
  refine ⟨fun w hw hi => ?_, by simp [entry]⟩
  have hlower := isLower_of_mem_sectionWords hw
  have hquote : ∀ c ∈ e.quote?.toList, c ∉ w := by
    intro c hq hm
    have hmark := e.quote_mark c (Option.mem_toList.1 hq)
    obtain rfl | rfl : c = '"' ∨ c = '\'' := by simpa [Entry.isQuote] using hmark
    · exact absurd (hlower _ hm) (by decide)
    · exact absurd (hlower _ hm) (by decide)
  have hclose : ∀ c ∈ e.quote?.toList ++ [':'], c ∉ w := by
    intro c hq hm
    rcases List.mem_append.1 hq with hq | hq
    · exact hquote c hq hm
    · rw [List.mem_singleton.1 hq] at hm
      exact absurd (hlower _ hm) (by decide)
  have hinfix := Text.infix_append_append_iff (a := e.version) (b := []) (by simp) hclose
  rw [List.append_nil] at hinfix
  rw [entry, Text.infix_append_of_lacks hquote, hinfix, List.infix_nil] at hi
  rcases hi with hi | rfl
  · exact hc.2 w hw hi
  · exact absurd hw (by decide)

end VersionLine

/-- An annotated line that introduces a version gives the attribution that its columns hold. -/
theorem ofLine_text_append (h : LineHead) (hc : ∀ column ∈ h.columns, Clear column)
    (e : VersionLine) (hv : Clear e.version) :
    introducesVersion (cleanLine (h.text ++ e.text)) = true ∧
      Entry.ofLine (cleanLine (h.text ++ e.text)) = .ok ⟨String.ofList e.version, h.timestamp⟩ := by
  have hs : '#' ∉ h.text := h.number_sign_not_mem_text fun column hm => (hc column hm).1
  rw [h.cleanLine_text_append hs,
    introducesVersion_text_append h e.text fun column hm => (hc column hm).2, e.cleanLine_text hv,
    e.cutContent_text hv]
  exact ⟨e.introducesVersion_entry hv, h.ofLine_text e⟩

theorem readAnnotate_text_append (h : LineHead) (hc : ∀ column ∈ h.columns, Clear column)
    (e : VersionLine) (hv : Clear e.version) :
    readAnnotate (String.ofList (h.text ++ e.text)) =
      [.ok ⟨String.ofList e.version, h.timestamp⟩] := by
  obtain ⟨hi, ho⟩ := ofLine_text_append h hc e hv
  rw [readAnnotate, String.toList_ofList, entryLines_eq (h.newline_not_mem_append e.newline_not_mem_text), if_pos hi,
    List.map_singleton, ho]

/-- A line is passed over in silence for a section word in one of its columns. -/
theorem entryLines_of_section_word (h : LineHead) (hs : ∀ column ∈ h.columns, '#' ∉ column)
    (hw : ∃ column ∈ h.columns, ∃ w ∈ sectionWords, w <:+: column) {content : List Char}
    (hn : '\n' ∉ content) : entryLines (h.text ++ content) = [] := by
  rw [entryLines_eq (h.newline_not_mem_append hn),
    h.cleanLine_text_append (h.number_sign_not_mem_text hs), if_neg]
  rw [introducesVersion_iff]
  rintro ⟨hno, -⟩
  obtain ⟨column, hm, w, hw, hi⟩ := hw
  exact hno w hw ((h.infix_text_append_iff (isLower_of_mem_sectionWords hw) _).2 (.inl ⟨column, hm, hi⟩))

/-- A line is cut at a number sign in one of its columns, so that what follows the columns is lost. -/
theorem entryLines_of_number_sign (h : LineHead) (hs : ∃ column ∈ h.columns, '#' ∈ column)
    {content : List Char} (hn : '\n' ∉ content) :
    entryLines (h.text ++ content) = entryLines (h.text.takeWhile (· != '#')) := by
  have hsign : '#' ∈ h.text := h.number_sign_mem_text.2 hs
  have hcut : '\n' ∉ h.text.takeWhile (· != '#') := fun hm =>
    h.newline_not_mem_text ((List.takeWhile_subset _) hm)
  rw [entryLines_eq (h.newline_not_mem_append hn), entryLines_eq hcut, cleanLine, cleanLine,
    takeWhile_append_of_mem hsign, List.takeWhile_idem]

/-- With clear columns the line of the descriptor decides: one that introduces a clear version is read
as that version at the timestamp of the columns, and any other is cut and passed over as it would be
alone. A section word in a column makes the line pass in silence, and a number sign in a column cuts
it there. -/
theorem annotated_line_decided_by_content (h : LineHead) :
    ((∀ column ∈ h.columns, Clear column) →
      (∀ e : VersionLine, Clear e.version → readAnnotate (String.ofList (h.text ++ e.text)) =
        [.ok ⟨String.ofList e.version, h.timestamp⟩]) ∧
      ∀ content, '\n' ∉ content → entryLines (h.text ++ content) =
        if introducesVersion (cleanLine content) then [h.text ++ cutContent content] else []) ∧
    ((∀ column ∈ h.columns, '#' ∉ column) →
      (∃ column ∈ h.columns, ∃ w ∈ sectionWords, w <:+: column) →
      ∀ content, '\n' ∉ content → readAnnotate (String.ofList (h.text ++ content)) = []) ∧
    ((∃ column ∈ h.columns, '#' ∈ column) →
      ∀ content, '\n' ∉ content → readAnnotate (String.ofList (h.text ++ content)) =
        readAnnotate (String.ofList (h.text.takeWhile (· != '#')))) := by
  refine ⟨fun hc => ⟨?_, ?_⟩, ?_, ?_⟩
  · exact readAnnotate_text_append h hc
  · exact fun content => entryLines_text_append h hc
  · intro hs hw content hn
    rw [readAnnotate, String.toList_ofList, entryLines_of_section_word h hs hw hn]
    rfl
  · intro hs content hn
    rw [readAnnotate, readAnnotate, String.toList_ofList, String.toList_ofList,
      entryLines_of_number_sign h hs hn]

def LineHead.byAuthor (author : List Char) (hne : author ≠ []) (hline : '\n' ∉ author) : LineHead where
  boundary := false
  revision := "815109b9a45".toList
  file? := none
  author := author
  beforeStamp := 1
  stamp := "2022-11-08 20:49:32 +0100".toList
  timestamp := ⟨2022, 11, 8, 20, 49, 32, 60⟩
  beforeNumber := 0
  number := "26".toList
  revision_ne := by decide
  revision_word := List.all_eq_true.1 (by decide)
  file_ne := by simp
  file_plain := by simp
  author_ne := hne
  author_line := hline
  stamp_reads := by decide
  number_ne := by decide
  number_digit := List.all_eq_true.1 (by decide)

def VersionLine.quoted : VersionLine where
  indent := 2
  quote? := some '"'
  version := "1.3.5".toList
  quote_mark := by simp [Entry.isQuote]
  version_ne := by decide
  version_plain c hc := by
    have hall : ("1.3.5".toList.all fun c => !Text.isBlank c && !Entry.isQuote c) = true := by decide
    simpa using List.all_eq_true.1 hall c hc

theorem jane_read_and_bot_passed_over :
    readAnnotate (String.ofList ((LineHead.byAuthor "<jane@example.com>".toList (by decide)
        (by decide)).text ++ VersionLine.quoted.text)) =
      [.ok ⟨"1.3.5", ⟨2022, 11, 8, 20, 49, 32, 60⟩⟩] ∧
    readAnnotate (String.ofList ((LineHead.byAuthor "<versions-bot@example.com>".toList (by decide)
        (by decide)).text ++ VersionLine.quoted.text)) = [] ∧
    readAnnotate (String.ofList ((LineHead.byAuthor "<jane#1@example.com>".toList (by decide)
        (by decide)).text ++ VersionLine.quoted.text)) =
      readAnnotate "815109b9a45 (<jane" := by
  refine ⟨?_, ?_, ?_⟩
  · exact ((annotated_line_decided_by_content _).1 (by decide +kernel)).1 _ (by decide +kernel)
  · exact (annotated_line_decided_by_content _).2.1 (by decide +kernel) (by decide +kernel) _
      (by decide +kernel)
  · refine ((annotated_line_decided_by_content _).2.2 (by decide +kernel) _ (by decide +kernel)).trans
      (congrArg readAnnotate ?_)
    decide +kernel

/-- The columns can make a line that introduces a version pass unread. -/
theorem not_every_version_line_read :
    ¬ ∀ (h : LineHead) (e : VersionLine), Clear e.version →
      readAnnotate (String.ofList (h.text ++ e.text)) =
        [.ok ⟨String.ofList e.version, h.timestamp⟩] := by
  intro hall
  have hread := hall (LineHead.byAuthor "<versions-bot@example.com>".toList (by decide) (by decide))
    VersionLine.quoted (by decide +kernel)
  have hempty : (readAnnotate (String.ofList ((LineHead.byAuthor "<versions-bot@example.com>".toList
      (by decide) (by decide)).text ++ VersionLine.quoted.text))).length = 0 := by decide +kernel
  rw [hread] at hempty
  cases hempty

end RecipePins.History
