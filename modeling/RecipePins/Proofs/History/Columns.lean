import RecipePins.Proofs.History.Reading

/-!
# The columns of an annotated line

An annotated line has the columns of a commit and then a line of the descriptor. If that line
introduces a version, the version and the timestamp of the line are read off, whatever the author is:
even one that holds parentheses, quotation marks or what looks like the rest of a line.
-/
namespace RecipePins.History

/-- The columns that stand before the line of the descriptor; `beforeStamp` and `beforeNumber` count the
spaces there beyond the one that has to be. -/
structure LineHead where
  boundary : Bool
  revision : List Char
  file? : Option (List Char)
  author : List Char
  beforeStamp : Nat
  stamp : List Char
  timestamp : Timestamp
  beforeNumber : Nat
  number : List Char
  revision_ne : revision ≠ []
  revision_word : ∀ c ∈ revision, Text.isWord c = true
  file_ne : ∀ file ∈ file?, file ≠ []
  file_plain : ∀ file ∈ file?, ∀ c ∈ file, Text.isBlank c = false
  author_ne : author ≠ []
  author_line : '\n' ∉ author
  stamp_reads : Timestamp.ofChars? stamp = some timestamp
  number_ne : number ≠ []
  number_digit : ∀ c ∈ number, c.isDigit = true

/-- A line of a descriptor that introduces a version, bare or between quotation marks. -/
structure VersionLine where
  indent : Nat
  quote? : Option Char
  version : List Char
  quote_mark : ∀ q ∈ quote?, Entry.isQuote q = true
  version_ne : version ≠ []
  version_plain : ∀ c ∈ version, Text.isBlank c = false ∧ Entry.isQuote c = false

namespace LineHead

variable (h : LineHead)

/-- The revision, after a caret if the history ends there. -/
def revisionText : List Char :=
  (if h.boundary then ['^'] else []) ++ h.revision

def fileText : List Char :=
  match h.file? with
  | some file => file ++ [' ']
  | none => []

def stampText : List Char :=
  h.stamp ++ (spaces h.beforeNumber ++ ' ' :: (h.number ++ [')']))

def text : List Char :=
  h.revisionText ++ ' ' :: (h.fileText ++ '(' :: (h.author ++ (spaces h.beforeStamp ++ ' ' :: h.stampText)))

end LineHead

namespace VersionLine

variable (e : VersionLine)

def entry : List Char :=
  e.quote?.toList ++ (e.version ++ (e.quote?.toList ++ [':']))

def text : List Char :=
  spaces e.indent ++ ' ' :: e.entry

end VersionLine

theorem isBlank_of_isQuote {c : Char} (h : Entry.isQuote c = true) : Text.isBlank c = false := by
  obtain rfl | rfl : c = '"' ∨ c = '\'' := by simpa [Entry.isQuote] using h
  · rfl
  · rfl

namespace VersionLine

variable (e : VersionLine)

theorem isBlank_of_mem_entry : ∀ c ∈ e.entry, Text.isBlank c = false := by
  have hq : ∀ c ∈ e.quote?.toList, Text.isBlank c = false := fun c hc =>
    isBlank_of_isQuote (e.quote_mark c (Option.mem_toList.1 hc))
  intro c hc
  simp only [entry, List.mem_append, List.mem_singleton] at hc
  rcases hc with hc | hc | hc | rfl
  · exact hq c hc
  · exact (e.version_plain c hc).1
  · exact hq c hc
  · rfl

theorem entry_dropWhile {p : Char → Bool} (hp : ∀ c, Text.isBlank c = false → p c = false) :
    e.entry.dropWhile p = e.entry := by
  have hne : e.entry ≠ [] := by simp [entry]
  have h := dropWhile_append_of_neg (b := []) hne fun c hc => hp c (e.isBlank_of_mem_entry c hc)
  rwa [List.append_nil] at h

theorem unquoted?_body :
    Entry.unquoted? (e.quote?.toList ++ (e.version ++ e.quote?.toList)) = some e.version := by
  have hany : e.version.any Entry.isQuote = false := by
    rw [List.any_eq_false]
    exact fun c hc => by simp [(e.version_plain c hc).2]
  have hempty : e.version.isEmpty = false := by simp [e.version_ne]
  have hdrop : Entry.dropClosing (Entry.dropOpening
      (e.quote?.toList ++ (e.version ++ e.quote?.toList))) = e.version := by
    cases hq : e.quote? with
    | some q =>
      have hm := e.quote_mark q hq
      simp [Entry.dropOpening, Entry.dropClosing, hm]
    | none =>
      have hlast := e.version_plain _ (List.getLast_mem e.version_ne)
      cases hv : e.version with
      | nil => exact absurd hv e.version_ne
      | cons c v =>
        have hc := e.version_plain c (hv ▸ List.mem_cons_self)
        simp only [Option.toList_none, List.nil_append, List.append_nil, Entry.dropOpening, hc.2,
          Bool.false_eq_true, if_false]
        rw [← hv, Entry.dropClosing, List.getLast?_eq_some_getLast e.version_ne]
        simp [hlast.2]
  rw [Entry.unquoted?, hdrop, hempty, hany]
  rfl

theorem version?_text : Entry.version? e.text = some e.version := by
  have hskip : Entry.skipSome? (· == ' ') e.text = some e.entry := by
    refine skipSome?_spaces rfl e.indent (e.entry_dropWhile fun c hc => ?_)
    simp only [beq_eq_false_iff_ne]
    rintro rfl
    cases hc
  have hcolon : Entry.dropColon? e.entry =
      some (e.quote?.toList ++ (e.version ++ e.quote?.toList)) := by
    rw [entry, ← List.append_assoc, ← List.append_assoc, Entry.dropColon?, List.getLast?_concat,
      List.dropLast_concat, if_pos rfl, List.append_assoc]
  rw [Entry.version?, hskip]
  simp only [bind, Option.bind_some, hcolon, e.unquoted?_body]

theorem newline_not_mem_text : '\n' ∉ e.text := by
  have hentry : '\n' ∉ e.entry := fun hm => by
    cases e.isBlank_of_mem_entry _ hm
  simp [text, newline_not_mem_spaces, hentry]

end VersionLine

namespace LineHead

variable (h : LineHead)

theorem isDecimalDigit_number : ∀ c ∈ h.number, Text.isDecimalDigit c = true := fun c hc =>
  isDecimalDigit_of_isDigit (h.number_digit c hc)

theorem stampText_append (content : List Char) :
    h.stampText ++ content =
      h.stamp ++ (spaces h.beforeNumber ++ ' ' :: (h.number ++ ')' :: content)) := by
  simp [stampText]

/-- After a blank, the timestamp and what follows it are read. -/
theorem stamped?_place {content version : List Char} (hv : Entry.version? content = some version) :
    Entry.stamped? (' ' :: (h.stampText ++ content)) = some (h.stamp, version) := by
  obtain ⟨p, hp⟩ := exists_parts h.stamp_reads
  have hend : lineEnd? (spaces h.beforeNumber ++ ' ' :: (h.number ++ ')' :: content)) = some version :=
    lineEnd?_number h.number_ne h.isDecimalDigit_number h.beforeNumber hv
  rw [stampText_append, ← hp]
  exact p.stamped?_place rfl hend

/-- No entry starts after the one that is written. -/
theorem lastStamped?_stampText (e : VersionLine) :
    Entry.lastStamped? (h.stampText ++ e.text) = none := by
  obtain ⟨p, hp⟩ := exists_parts h.stamp_reads
  have hentry : Entry.lastStamped? e.entry = none := by
    have := lastStamped?_append_of_plain (s := []) e.isBlank_of_mem_entry rfl
    rwa [List.append_nil] at this
  have hno : ' ' ∉ e.entry := fun hm => by cases e.isBlank_of_mem_entry ' ' hm
  have htext : Entry.lastStamped? e.text = none :=
    lastStamped?_spaces e.indent (e.entry_dropWhile fun _ => id) (shaped?_stampShape_of_no_space hno) hentry
  have hnumber : Entry.lastStamped? (spaces h.beforeNumber ++ ' ' :: (h.number ++ ')' :: e.text)) = none := by
    rw [lastStamped?_number h.number_ne h.isDecimalDigit_number, htext]
  rw [stampText_append, ← hp]
  exact p.lastStamped?_text hnumber

/-- The entry that is written is the last one on its line. -/
theorem lastStamped?_place (e : VersionLine) :
    Entry.lastStamped? (' ' :: (h.stampText ++ e.text)) = some (h.stamp, e.version) := by
  rw [Entry.lastStamped?, if_neg (by decide), h.lastStamped?_stampText e,
    h.stamped?_place e.version?_text]
  rfl

def afterAuthor (e : VersionLine) : List Char :=
  spaces h.beforeStamp ++ ' ' :: (h.stampText ++ e.text)

theorem mem_stampText {c : Char} (hc : c ∈ h.stampText) :
    c.isDigit = true ∨ c ∈ " +-:)".toList := by
  obtain ⟨p, hp⟩ := exists_parts h.stamp_reads
  have separator : " +-:".toList ⊆ " +-:)".toList := by decide
  simp only [stampText, List.mem_append, List.mem_cons, List.not_mem_nil, or_false] at hc
  rcases hc with hm | hm | rfl | hm | rfl
  · exact (p.mem_text (hp ▸ hm)).imp id fun hm => separator hm
  · rw [List.eq_of_mem_replicate hm]
    decide
  · decide
  · exact .inl (h.number_digit c hm)
  · decide

theorem text_append (e : VersionLine) :
    h.text ++ e.text =
      h.revisionText ++ ' ' :: (h.fileText ++ '(' :: (h.author ++ h.afterAuthor e)) := by
  simp [text, afterAuthor]

theorem newline_not_mem_afterAuthor (e : VersionLine) : '\n' ∉ h.afterAuthor e := by
  have hstamp : '\n' ∉ h.stampText := fun hm => absurd (h.mem_stampText hm) (by decide)
  simp [afterAuthor, newline_not_mem_spaces, hstamp, e.newline_not_mem_text]

theorem isHead_text : IsHead (h.revisionText ++ ' ' :: h.fileText) := by
  have hword : IsRevision h.revisionText :=
    ⟨h.boundary, h.revision, h.revision_ne, h.revision_word, rfl⟩
  rw [fileText]
  cases hf : h.file? with
  | some file => exact .file hword (h.file_ne file hf) (h.file_plain file hf)
  | none => exact .revision hword

/-- The entry that is written is the one that counts, whatever the author is. -/
theorem columns?_text (e : VersionLine) :
    Entry.columns? (h.text ++ e.text) = some (h.stamp, e.version) := by
  obtain ⟨c, author, ha⟩ := List.exists_cons_of_ne_nil h.author_ne
  have hauthor : '\n' ∉ c :: author := ha ▸ h.author_line
  have hgap : '\n' ∉ author ++ spaces h.beforeStamp := by
    intro hm
    rcases List.mem_append.1 hm with hm | hm
    · exact hauthor (List.mem_cons_of_mem c hm)
    · exact newline_not_mem_spaces _ hm
  have hlast : Entry.lastStamped? (author ++ h.afterAuthor e) = some (h.stamp, e.version) := by
    rw [afterAuthor, ← List.append_assoc]
    exact lastStamped?_append hgap (h.lastStamped?_place e)
  have hline : h.text ++ e.text =
      (h.revisionText ++ ' ' :: h.fileText) ++ '(' :: c :: (author ++ h.afterAuthor e) := by
    rw [text_append, ha]
    simp
  rw [hline]
  apply columns?_of_head h.isHead_text ?_ hlast
  rw [← List.cons_append, List.mem_append, not_or]
  exact ⟨hauthor, h.newline_not_mem_afterAuthor e⟩

/-- The version and the timestamp of an annotated line, whatever its other columns hold. -/
theorem ofLine_text (e : VersionLine) :
    Entry.ofLine (h.text ++ e.text) = .ok ⟨String.ofList e.version, h.timestamp⟩ := by
  rw [Entry.ofLine, columns?_text]
  simp only [h.stamp_reads]

end LineHead

end RecipePins.History
