import RecipePins.Proofs.History.Restamp

/-!
# Gaps between columns

Spaces set the columns of an annotated line apart. In front of the timestamp, of the line number and of the
entry there may be any number of them. Behind the file column there has to be just one: a line with more of
them is not recognised, unless the file name opens the parenthesis of the author itself.
-/
namespace RecipePins.History

structure FiledLine where
  revision : List Char
  file : List Char
  rest : List Char
  isRevision : IsRevision revision
  file_ne : file ≠ []
  file_plain : ∀ c ∈ file, Text.isBlank c = false

/-- The line with some more spaces behind the file column, which is followed by the parenthesis and the
rest of the line. -/
def FiledLine.text (l : FiledLine) (afterFile : Nat) : List Char :=
  l.revision ++ ' ' :: (l.file ++ (spaces afterFile ++ ' ' :: '(' :: l.rest))

/-- The columns from the timestamp on, with the blank in front of them: the timestamp, the line number and,
behind the closing parenthesis, an entry that gives a version. -/
structure EntryColumns where
  blank : Char
  stamp : List Char
  timestamp : Timestamp
  beforeNumber : Nat
  number : List Char
  beforeEntry : Nat
  entry : List Char
  version : List Char
  isBlank_blank : Text.isBlank blank = true
  stamp_reads : Timestamp.ofChars? stamp = some timestamp
  number_ne : number ≠ []
  number_digit : ∀ c ∈ number, Text.isDecimalDigit c = true
  entry_reads : Entry.version? (spaces beforeEntry ++ ' ' :: entry) = some version

namespace EntryColumns

variable (e : EntryColumns)

/-- What follows the timestamp, with some more spaces in front of the number and of the entry. -/
def back (beforeNumber beforeEntry : Nat) : List Char :=
  spaces (beforeNumber + e.beforeNumber) ++ ' ' ::
    (e.number ++ ')' :: (spaces (beforeEntry + e.beforeEntry) ++ ' ' :: e.entry))

/-- The columns with some more spaces in front of the timestamp, of the number and of the entry. -/
def text (beforeStamp beforeNumber beforeEntry : Nat) : List Char :=
  e.blank :: (spaces beforeStamp ++ (e.stamp ++ e.back beforeNumber beforeEntry))

/-- The columns of a line of the documented form. -/
def of (h : LineHead) (v : VersionLine) : EntryColumns where
  blank := ' '
  stamp := h.stamp
  timestamp := h.timestamp
  beforeNumber := h.beforeNumber
  number := h.number
  beforeEntry := v.indent
  entry := v.entry
  version := v.version
  isBlank_blank := rfl
  stamp_reads := h.stamp_reads
  number_ne := h.number_ne
  number_digit := h.isDecimalDigit_number
  entry_reads := v.version?_text

end EntryColumns

theorem stamped?_spaces_append (n : Nat) (s : List Char) :
    Entry.stamped? (spaces n ++ ' ' :: s) = Entry.stamped? (' ' :: s) := by
  have hskip (k : Nat) : Entry.skipSome? Text.isBlank (spaces k ++ ' ' :: s) =
      some (s.dropWhile Text.isBlank) := skipSome?_spaces_append rfl k s
  rw [stamped?_eq_bind, stamped?_eq_bind, hskip]
  exact congrArg (Option.bind · _) (hskip 0).symm

/-- More spaces make no new place for an entry. -/
theorem lastStamped?_spaces_append (n : Nat) (s : List Char) :
    Entry.lastStamped? (spaces n ++ ' ' :: s) = Entry.lastStamped? (' ' :: s) := by
  induction n with
  | zero => rfl
  | succ n ih =>
    have hstep : Entry.lastStamped? (spaces (n + 1) ++ ' ' :: s) =
        (Entry.lastStamped? (' ' :: s)).orElse fun _ => Entry.stamped? (' ' :: s) := by
      rw [← stamped?_spaces_append (n + 1), ← ih]
      rfl
    rw [hstep]
    cases hl : Entry.lastStamped? (' ' :: s) with
    | some x => rfl
    | none =>
      cases hs : Entry.stamped? (' ' :: s) with
      | none => rfl
      | some x => exact absurd hl (lastStamped?_ne_none hs)

/-- The spaces in front of an entry are skipped; where one is the entry itself there are two of them. -/
theorem version?_spaces_append {n : Nat} {s version : List Char}
    (h : Entry.version? (spaces n ++ ' ' :: s) = some version) (k : Nat) :
    Entry.version? (spaces (k + n) ++ ' ' :: s) = some version := by
  have hskip (m : Nat) : Entry.skipSome? (· == ' ') (spaces m ++ ' ' :: s) =
      some (s.dropWhile (· == ' ')) := skipSome?_spaces_append rfl m s
  have htake (ht : ((spaces n ++ ' ' :: s).take 2 == [' ', ' ']) = true) :
      ((spaces (k + n) ++ ' ' :: s).take 2 == [' ', ' ']) = true := by
    cases k with
    | zero => rwa [Nat.zero_add]
    | succ k =>
      -- with a space more than before there are two in any case
      rw [Nat.succ_add, spaces_succ, List.cons_append]
      cases hm : k + n with
      | zero => rfl
      | succ m => rw [spaces_succ]; rfl
  simp only [Entry.version?, hskip, bind, Option.bind_some] at h ⊢
  obtain ⟨body, hb, hv⟩ := Option.bind_eq_some_iff.1 h
  rw [hb, Option.bind_some]
  cases hu : Entry.unquoted? body with
  | some v =>
    rw [hu] at hv
    exact hv
  | none =>
    simp only [hu, Option.ite_none_right_eq_some, Bool.and_eq_true] at hv ⊢
    exact ⟨⟨htake hv.1.1, hv.1.2⟩, hv.2⟩

theorem lastStamped?_cons_paren (s : List Char) : Entry.lastStamped? ('(' :: s) = Entry.lastStamped? s :=
  lastStamped?_plain_append (a := ['(']) (fun _ hc => List.mem_singleton.1 hc ▸ rfl) s

theorem lastStamped?_paren (n : Nat) (s : List Char) :
    Entry.lastStamped? (spaces n ++ ' ' :: '(' :: s) = Entry.lastStamped? s := by
  rw [lastStamped?_gap n rfl (shaped?_stampShape_of_mem_take List.mem_cons_self rfl),
    lastStamped?_cons_paren]

/-- A word of the author and the parenthesis behind it do not matter. -/
theorem authored?_paren {word : List Char} (hw : ∀ c ∈ word, Text.isBlank c = false) (n : Nat)
    (s : List Char) : Entry.authored? (word ++ (spaces n ++ ' ' :: '(' :: s)) = Entry.lastStamped? s := by
  cases word with
  | nil =>
    cases n with
    | zero => exact lastStamped?_cons_paren s
    | succ n => exact lastStamped?_paren n s
  | cons c word =>
    have hc : c ≠ '\n' := by
      rintro rfl
      cases hw '\n' List.mem_cons_self
    rw [List.cons_append, Entry.authored?, if_neg hc,
      lastStamped?_plain_append fun d hd => hw d (List.mem_cons_of_mem c hd), lastStamped?_paren]

/-- What is read behind the first character of an author is read from the author too. -/
theorem authored?_or (s : List Char) :
    (Entry.authored? s).or (Entry.lastStamped? s) = Entry.lastStamped? s := by
  cases s with
  | nil => rfl
  | cons c s =>
    rw [Entry.authored?]
    split
    · rfl
    · next hc =>
      rw [Entry.lastStamped?, if_neg hc]
      cases Entry.lastStamped? s <;> rfl

namespace FiledLine

variable (l : FiledLine)

/-- The reading that takes the file name for the start of the author. -/
def direct? : Option (List Char × List Char) :=
  if l.file.head? = some '(' then Entry.lastStamped? l.rest else none

theorem columns?_text_eq (n : Nat) : Entry.columns? (l.text n) =
    (((Entry.afterFile? (l.file ++ (spaces n ++ ' ' :: '(' :: l.rest))).bind Entry.afterParen?).bind
      Entry.authored?).or l.direct? := by
  have hrevision : Entry.afterRevision? (l.text n) =
      some (l.file ++ (spaces n ++ ' ' :: '(' :: l.rest)) :=
    afterRevision?_eq_some_iff.2 ⟨l.revision, l.isRevision, rfl⟩
  have hdirect : (Entry.afterParen? (l.file ++ (spaces n ++ ' ' :: '(' :: l.rest))).bind Entry.authored? =
      l.direct? := by
    obtain ⟨c, word, hf⟩ := List.exists_cons_of_ne_nil l.file_ne
    have hword : ∀ d ∈ word, Text.isBlank d = false := fun d hd =>
      l.file_plain d (hf ▸ List.mem_cons_of_mem c hd)
    -- what the file name and the spaces add to the author holds no entry
    simp only [direct?, hf, List.cons_append, Entry.afterParen?, Entry.skipChar?, List.head?_cons,
      Option.some.injEq]
    split
    · exact authored?_paren hword n l.rest
    · rfl
  rw [Entry.columns?, hrevision, ← hdirect]
  simp only [bind, Option.bind_some, Option.orElse_eq_or, Option.bind_assoc]

theorem columns?_text_zero : Entry.columns? (l.text 0) = (Entry.authored? l.rest).or l.direct? := by
  rw [columns?_text_eq]
  have hfile := afterFile?_plain l.file_ne l.file_plain ('(' :: l.rest)
  rw [spaces, List.replicate_zero, List.nil_append, hfile]
  rfl

theorem columns?_text_succ (n : Nat) : Entry.columns? (l.text (n + 1)) = l.direct? := by
  rw [columns?_text_eq, spaces_succ, List.cons_append, afterFile?_plain l.file_ne l.file_plain]
  cases n <;> rfl

/-- Behind a file column only one space is taken. More of them do not matter where the column can be taken
for the start of the author instead. -/
theorem ofLine_text {a : Attribution} (h : Entry.ofLine (l.text 0) = .ok a) (n : Nat) :
    Entry.ofLine (l.text n) = if n = 0 ∨ l.file.head? = some '(' then .ok a
      else .error (.unrecognised (String.ofList (l.text n))) := by
  cases n with
  | zero => rw [h, if_pos (.inl rfl)]
  | succ n =>
    by_cases hp : l.file.head? = some '('
    · have hd : l.direct? = Entry.columns? (l.text 0) := by
        rw [columns?_text_zero, direct?, if_pos hp, authored?_or]
      rw [if_pos (.inr hp)]
      obtain ⟨stamp, hc, hs⟩ := ofLine_eq_ok_iff.1 h
      exact ofLine_eq_ok_iff.2 ⟨stamp, by rw [columns?_text_succ, hd, hc], hs⟩
    · have hd : l.direct? = none := if_neg hp
      rw [if_neg (by simp [hp]), Entry.ofLine, columns?_text_succ, hd]

end FiledLine

namespace EntryColumns

variable (e : EntryColumns)

theorem lineEnd?_back (beforeNumber beforeEntry : Nat) :
    lineEnd? (e.back beforeNumber beforeEntry) = some e.version :=
  lineEnd?_number e.number_ne e.number_digit _ (version?_spaces_append e.entry_reads beforeEntry)

/-- Behind the timestamp an entry can start only in the entry that is written. -/
theorem lastStamped?_back (beforeNumber beforeEntry : Nat) :
    Entry.lastStamped? (e.back beforeNumber beforeEntry) = Entry.lastStamped? (' ' :: e.entry) := by
  rw [back, lastStamped?_number e.number_ne e.number_digit, lastStamped?_spaces_append]

/-- The timestamp is read behind a blank unless a later one is. -/
theorem lastStamped?_place {author : List Char} (j k : Nat) (hn : '\n' ∉ author)
    (hb : ∃ front blank, author = front ++ [blank] ∧ Text.isBlank blank = true)
    (hlast : Entry.lastStamped? (' ' :: e.entry) = none) :
    Entry.lastStamped? (author ++ (e.stamp ++ e.back j k)) = some (e.stamp, e.version) := by
  obtain ⟨p, hp⟩ := exists_parts e.stamp_reads
  obtain ⟨front, blank, rfl, hblank⟩ := hb
  rw [← hp, ← List.append_cons]
  exact p.lastStamped?_place hn hblank (e.lineEnd?_back j k) ((e.lastStamped?_back j k).trans hlast)

/-- What is read behind a part of the author is read with more spaces too. -/
theorem lastStamped?_more {author : List Char} {x : List Char × List Char} (i j k : Nat)
    (hn : '\n' ∉ author)
    (hb : author = [] ∨ ∃ front blank, author = front ++ [blank] ∧ Text.isBlank blank = true)
    (h : Entry.lastStamped? (author ++ (e.stamp ++ e.back 0 0)) = some x) :
    Entry.lastStamped? ((author ++ spaces i) ++ (e.stamp ++ e.back j k)) = some x := by
  obtain ⟨p, hp⟩ := exists_parts e.stamp_reads
  have htext (j k : Nat) : Entry.lastStamped? (e.stamp ++ e.back j k) =
      Entry.lastStamped? (' ' :: e.entry) := by
    rw [← hp, p.lastStamped?_text_append, lastStamped?_back]
  have hskip : '\n' ∉ author ++ spaces i := by
    simp [hn, newline_not_mem_spaces]
  cases hlast : Entry.lastStamped? (' ' :: e.entry) with
  | some y =>
    have hread := lastStamped?_append hn ((htext 0 0).trans hlast)
    obtain rfl := Option.some.inj (hread.symm.trans h)
    exact lastStamped?_append hskip ((htext j k).trans hlast)
  | none =>
    rcases hb with rfl | ⟨front, blank, rfl, hblank⟩
    · rw [List.nil_append, htext, hlast] at h
      cases h
    · have hread := e.lastStamped?_place 0 0 hn ⟨front, blank, rfl, hblank⟩ hlast
      obtain rfl := Option.some.inj (hread.symm.trans h)
      refine e.lastStamped?_place j k hskip ?_ hlast
      cases i with
      | zero => exact ⟨front, blank, List.append_nil _, hblank⟩
      | succ i =>
        exact ⟨(front ++ [blank]) ++ spaces i, ' ', by simp [spaces, List.replicate_succ'], rfl⟩

theorem newline_mem_text_iff (i j k : Nat) :
    '\n' ∈ e.text i j k ↔ '\n' = e.blank ∨ '\n' ∈ e.number ∨ '\n' ∈ e.entry := by
  obtain ⟨p, hp⟩ := exists_parts e.stamp_reads
  simp [text, back, ← hp, newline_not_mem_spaces, p.newline_not_mem_text]

/-- An entry that is read is read with more spaces in front of its columns too. -/
theorem columns?_more {front : List Char} {x : List Char × List Char} (i j k : Nat)
    (hn : '\n' ∉ front ++ e.text 0 0 0) (h : Entry.columns? (front ++ e.text 0 0 0) = some x) :
    Entry.columns? (front ++ e.text i j k) = some x := by
  obtain ⟨p, hp⟩ := exists_parts e.stamp_reads
  obtain ⟨head, c, w, hhead, heq, hw⟩ := (columns?_eq_some_iff hn).1 h
  have hline (i j k : Nat) :
      front ++ e.text i j k = (front ++ [e.blank]) ++ (spaces i ++ (p.text ++ e.back j k)) := by
    simp [text, hp]
  have hn' : '\n' ∉ front ++ e.text i j k := by
    rwa [List.mem_append, newline_mem_text_iff, ← e.newline_mem_text_iff 0 0 0, ← List.mem_append]
  obtain ⟨z, hz, hcw⟩ := hhead.split p (heq.symm.trans (hline 0 0 0))
  cases z with
  | nil =>
    -- the blank in front of the timestamp is not the parenthesis
    have hparen : e.blank = '(' := by simpa using congrArg List.getLast? hz
    have hblank := e.isBlank_blank
    rw [hparen] at hblank
    cases hblank
  | cons d z =>
    obtain ⟨rfl, rfl⟩ := List.cons.inj hcw
    have hends : z = [] ∨ ∃ front blank, z = front ++ [blank] ∧ Text.isBlank blank = true := by
      rcases List.eq_nil_or_concat z with rfl | ⟨front', blank, rfl⟩
      · exact .inl rfl
      · have hconcat : front ++ [e.blank] = (head ++ '(' :: c :: front') ++ [blank] := by simpa using hz
        have hlast : e.blank = blank := List.singleton_inj.1 (List.append_inj_right' hconcat rfl)
        exact .inr ⟨front', blank, List.concat_eq_append, hlast ▸ e.isBlank_blank⟩
    have hpadded : front ++ e.text i j k =
        head ++ '(' :: c :: ((z ++ spaces i) ++ (e.stamp ++ e.back j k)) := by
      rw [hline, hz, hp]
      simp
    rw [hpadded] at hn' ⊢
    simp only [List.mem_append, List.mem_cons, not_or] at hn'
    apply columns?_of_head hhead
    · simp only [List.mem_append, List.mem_cons, not_or]
      exact hn'.2.2
    · rw [hp] at hw
      exact e.lastStamped?_more i j k hn'.2.2.2.1.1 hends hw

end EntryColumns

theorem skipSome?_space_eq_some {s rest : List Char} (h : Entry.skipSome? (· == ' ') s = some rest) :
    ∃ n, s = spaces n ++ ' ' :: rest := by
  obtain ⟨skipped, rfl, hne, hall⟩ := skipSome?_eq_some h
  have hskipped : skipped = spaces skipped.length :=
    List.eq_replicate_of_mem fun c hc => by simpa using hall c hc
  obtain ⟨n, hn⟩ := Nat.exists_eq_succ_of_ne_zero (mt List.length_eq_zero_iff.1 hne)
  refine ⟨n, ?_⟩
  rw [hskipped, hn, spaces, List.replicate_succ', List.append_assoc, List.singleton_append, spaces]

/-- The end of a line has a line number and an entry, each behind spaces. -/
theorem lineEnd?_eq_some {s version : List Char} (h : lineEnd? s = some version) :
    ∃ n number m entry, s = spaces n ++ ' ' :: (number ++ ')' :: (spaces m ++ ' ' :: entry)) ∧
      number ≠ [] ∧ (∀ c ∈ number, Text.isDecimalDigit c = true) ∧
      Entry.version? (spaces m ++ ' ' :: entry) = some version := by
  obtain ⟨afterSpaces, hspaces, hrest⟩ := Option.bind_eq_some_iff.1 h
  obtain ⟨afterNumber, hnumber, hrest⟩ := Option.bind_eq_some_iff.1 hrest
  obtain ⟨afterParen, hparen, hv⟩ := Option.bind_eq_some_iff.1 hrest
  obtain ⟨entry, hentry, -⟩ := Option.bind_eq_some_iff.1 hv
  obtain ⟨n, rfl⟩ := skipSome?_space_eq_some hspaces
  obtain ⟨number, rfl, hne, hdigits⟩ := skipSome?_eq_some hnumber
  obtain rfl := skipChar?_eq_some hparen
  obtain ⟨m, rfl⟩ := skipSome?_space_eq_some hentry
  exact ⟨n, number, m, entry, rfl, hne, hdigits, hv⟩

/-- A line that is read has the columns from which it is read. -/
theorem exists_entryColumns {line : List Char} {a : Attribution} (hn : '\n' ∉ line)
    (h : Entry.ofLine line = .ok a) : ∃ front, ∃ e : EntryColumns, line = front ++ e.text 0 0 0 ∧
      e.timestamp = a.timestamp ∧ e.version = a.version.toList := by
  obtain ⟨stamp, hc, hs⟩ := ofLine_eq_ok_iff.1 h
  obtain ⟨head, c, w, -, rfl, hw⟩ := (columns?_eq_some_iff hn).1 hc
  simp only [List.mem_append, List.mem_cons, not_or] at hn
  obtain ⟨before, blank, back, rfl, hblank, hend, -⟩ := lastStamped?_eq_some hn.2.2.2 hw
  obtain ⟨n, number, m, entry, rfl, hne, hdigits, hv⟩ := lineEnd?_eq_some hend
  refine ⟨head ++ '(' :: c :: before,
    ⟨blank, stamp, a.timestamp, n, number, m, entry, a.version.toList, hblank, hs, hne, hdigits, hv⟩, ?_,
    rfl, rfl⟩
  simp [EntryColumns.text, EntryColumns.back, spaces]

/-- More spaces behind the file column of a line that is read make it unrecognised, unless the file name
opens the author's parenthesis. More spaces in front of the timestamp, the number and the entry never change
what is read. -/
theorem padded_columns_read {line : List Char} {a : Attribution} (h : Entry.ofLine line = .ok a) :
    (∀ l : FiledLine, line = l.text 0 → ∀ n,
      Entry.ofLine (l.text n) = if n = 0 ∨ l.file.head? = some '(' then .ok a
        else .error (.unrecognised (String.ofList (l.text n)))) ∧
    ('\n' ∉ line →
      (∃ front, ∃ e : EntryColumns, line = front ++ e.text 0 0 0 ∧ e.timestamp = a.timestamp ∧
        e.version = a.version.toList) ∧
      ∀ front, ∀ e : EntryColumns, line = front ++ e.text 0 0 0 → ∀ i j k,
        Entry.ofLine (front ++ e.text i j k) = .ok a) := by
  refine ⟨?file, fun hn => ⟨exists_entryColumns hn h, ?entry⟩⟩
  case file =>
    rintro l rfl n
    exact l.ofLine_text h n
  case entry =>
    rintro front e rfl i j k
    obtain ⟨stamp, hc, hs⟩ := ofLine_eq_ok_iff.1 h
    exact ofLine_eq_ok_iff.2 ⟨stamp, e.columns?_more i j k hn hc, hs⟩

def FiledLine.sample : FiledLine where
  revision := "^815109b".toList
  file := "config.yml".toList
  rest := "<a@b.c> 2022-11-08 20:49:32 +0100 26)   \"1.3.5\":".toList
  isRevision := ⟨true, "815109b".toList, by decide, List.all_eq_true.1 (by decide), rfl⟩
  file_ne := by decide
  file_plain c hc := by
    have hall : ("config.yml".toList.all fun c => !Text.isBlank c) = true := by decide
    simpa using List.all_eq_true.1 hall c hc

theorem sample_padded_columns :
    Entry.ofLine "^815109b config.yml (<a@b.c>   2022-11-08 20:49:32 +0100    26)    \"1.3.5\":".toList =
      .ok ⟨"1.3.5", ⟨2022, 11, 8, 20, 49, 32, 60⟩⟩ ∧
    Entry.ofLine "^815109b config.yml   (<a@b.c> 2022-11-08 20:49:32 +0100 26)   \"1.3.5\":".toList =
      .error (.unrecognised
        "^815109b config.yml   (<a@b.c> 2022-11-08 20:49:32 +0100 26)   \"1.3.5\":") := by
  have hread : Entry.ofLine (FiledLine.sample.text 0) =
      .ok ⟨"1.3.5", ⟨2022, 11, 8, 20, 49, 32, 60⟩⟩ := by
    decide +kernel
  obtain ⟨hfile, hentry⟩ := padded_columns_read hread
  let columns := EntryColumns.of (.byAuthor "<a@b.c>".toList (by decide) (by decide)) .quoted
  have hcolumns : "^815109b config.yml (<a@b.c>   2022-11-08 20:49:32 +0100    26)    \"1.3.5\":".toList =
      "^815109b config.yml (<a@b.c>".toList ++ columns.text 2 3 1 := by decide +kernel
  have hpadded : "^815109b config.yml   (<a@b.c> 2022-11-08 20:49:32 +0100 26)   \"1.3.5\":".toList =
      FiledLine.sample.text 2 := by decide +kernel
  constructor
  · rw [hcolumns]
    exact (hentry (by decide +kernel)).2 _ columns (by decide +kernel) 2 3 1
  · rw [hpadded, hfile .sample rfl 2, if_neg (by decide), ← hpadded, String.ofList_toList]

theorem not_padded_file_read_always :
    ¬ ∀ (l : FiledLine) (a : Attribution), Entry.ofLine (l.text 0) = .ok a →
      ∀ n, Entry.ofLine (l.text n) = .ok a := by
  intro hall
  have hread := hall .sample ⟨"1.3.5", ⟨2022, 11, 8, 20, 49, 32, 60⟩⟩ (by decide +kernel) 2
  exact absurd hread (by decide +kernel)

end RecipePins.History
