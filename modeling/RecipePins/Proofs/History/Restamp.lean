import RecipePins.Proofs.History.Account
import RecipePins.Proofs.History.Exchange
import RecipePins.Proofs.History.Written

/-!
# Another timestamp in the same place

A line that gives an attribution has a place for its timestamp. Whatever valid timestamp is written there,
the line gives the same version at that timestamp.
-/
namespace RecipePins.History

namespace StampParts

variable (p : StampParts)

theorem number_sign_not_mem_text : '#' ∉ p.text :=
  p.not_mem_text rfl (by decide)

theorem not_mem_lower {w : List Char} (hw : ∀ c ∈ w, c.isLower = true) : ∀ c ∈ p.text, c ∉ w := by
  intro c hc hm
  rcases p.mem_text hc with hd | hs
  · simpa [hw c hm] using Text.isLower_of_isDigit hd
  · have hall : (" +-:".toList.all (!·.isLower)) = true := by decide
    simpa [hw c hm] using List.all_eq_true.1 hall c hs

/-- A timestamp does not end in a colon, so that what follows it has to. -/
theorem getLast?_eq_colon (front back : List Char) :
    (front ++ (p.text ++ back)).getLast? = some ':' ↔ back.getLast? = some ':' := by
  cases back with
  | nil =>
    have hzone : ':' ∉ p.zone := fun hm => by
      have hsigns := mem_of_fits p.zone_fits hm
      revert hsigns
      decide
    have hlast : (front ++ (p.text ++ [])).getLast? = p.zone.getLast? := by
      rw [text, List.append_nil, ← List.cons_append, ← List.append_assoc, ← List.append_assoc,
        List.append_cons, List.getLast?_append_of_ne_nil _ p.zone_ne]
    rw [hlast]
    exact iff_of_false (fun h => hzone (List.mem_of_getLast? h)) (by simp)
  | cons c back => simp

/-- Blanks are taken off behind a timestamp only as far as it. -/
theorem trimEnd_text (front back : List Char) :
    Text.trimEnd (front ++ (p.text ++ back)) = front ++ (p.text ++ Text.trimEnd back) := by
  have hlast := p.isBlank_of_mem_zone _ (List.getLast_mem p.zone_ne)
  have htext : p.text = p.date ++ ' ' :: (p.clock ++ ' ' :: p.zone.dropLast) ++ [p.zone.getLast p.zone_ne] := by
    conv_lhs => rw [text, ← List.dropLast_append_getLast p.zone_ne]
    simp
  have happend (s : List Char) : front ++ (p.text ++ s) =
      (front ++ (p.date ++ ' ' :: (p.clock ++ ' ' :: p.zone.dropLast))) ++ p.zone.getLast p.zone_ne :: s := by
    rw [htext]
    simp
  rw [happend, Text.trimEnd_append_cons hlast, ← happend]

/-- What is left of a line around its timestamp. -/
theorem cleanLine_text {front : List Char} (hf : '#' ∉ front) (back : List Char) :
    cleanLine (front ++ (p.text ++ back)) =
      front.dropWhile Text.isBlank ++ (p.text ++ cutContent back) := by
  rw [cleanLine, takeWhile_append_of_not_mem hf, takeWhile_append_of_not_mem p.number_sign_not_mem_text,
    Text.trim, dropWhile_text, trimEnd_text, cutContent]

/-- A timestamp in what is left of a line stands in the line itself. -/
theorem exists_line_place {line before after : List Char}
    (h : cleanLine line = before ++ (p.text ++ after)) :
    ∃ front back, line = front ++ (p.text ++ back) ∧ '#' ∉ front ∧
      front.dropWhile Text.isBlank = before ∧ cutContent back = after := by
  obtain ⟨lead, tail, hkept, hdrop⟩ := Text.exists_trim (line.takeWhile (· != '#'))
  rw [show Text.trim (line.takeWhile (· != '#')) = before ++ (p.text ++ after) from h] at hkept hdrop
  have hline : line = (lead ++ before) ++ (p.text ++ (after ++ tail ++ line.dropWhile (· != '#'))) := by
    conv_lhs => rw [← List.takeWhile_append_dropWhile (p := (· != '#')) (l := line), hkept]
    simp
  have hsign : '#' ∉ lead ++ before := by
    intro hm
    have hkeep : '#' ∈ line.takeWhile (· != '#') := by
      rw [hkept, ← List.append_assoc, ← List.append_assoc]
      exact List.mem_append_left _ (List.mem_append_left _ hm)
    have hp := List.all_eq_true.1 (List.all_takeWhile (p := (· != '#')) (l := line)) '#' hkeep
    simp at hp
  have hbefore : (lead ++ before).dropWhile Text.isBlank = before := by
    have hkept' : line.takeWhile (· != '#') = (lead ++ before) ++ (p.text ++ (after ++ tail)) := by
      simp [hkept]
    rw [hkept', dropWhile_text, List.append_assoc, List.append_assoc] at hdrop
    exact List.append_cancel_right hdrop
  refine ⟨_, _, hline, hsign, hbefore, ?_⟩
  have hclean := p.cleanLine_text hsign (after ++ tail ++ line.dropWhile (· != '#'))
  rw [← hline, h, hbefore] at hclean
  exact (List.append_cancel_left (List.append_cancel_left hclean)).symm

end StampParts

/-- Which timestamp stands in a line does not decide whether the line introduces a version. -/
theorem introducesVersion_stamp (p p' : StampParts) (front back : List Char) :
    introducesVersion (cleanLine (front ++ (p.text ++ back))) =
      introducesVersion (cleanLine (front ++ (p'.text ++ back))) := by
  have decided (q : StampParts) (hf : '#' ∉ front) :
      introducesVersion (cleanLine (front ++ (q.text ++ back))) = true ↔
        (∀ w ∈ sectionWords, ¬ (w <:+: front.dropWhile Text.isBlank ∨ w <:+: cutContent back)) ∧
          (cutContent back).getLast? = some ':' := by
    rw [q.cleanLine_text hf, introducesVersion_iff, q.getLast?_eq_colon]
    refine and_congr_left' (forall₂_congr fun w hw => not_congr ?_)
    exact Text.infix_append_append_iff q.text_ne (q.not_mem_lower (isLower_of_mem_sectionWords hw))
  by_cases hf : '#' ∈ front
  · rw [cleanLine, cleanLine, takeWhile_append_of_mem hf, takeWhile_append_of_mem hf]
  · rw [Bool.eq_iff_iff, decided p hf, decided p' hf]

/-- The place of the timestamp on a line that gives an attribution: any other timestamp written there is
given with the same version. -/
structure StampPlace (a : Attribution) (front stamp back : List Char) : Prop where
  reads : Timestamp.ofChars? stamp = some a.timestamp
  rereads : ∀ stamp' t, Timestamp.ofChars? stamp' = some t →
    attribution? (front ++ (stamp' ++ back)) = some ⟨a.version, t⟩

/-- A line with a timestamp written in the place of another one of the same instant. On a line that gives
no attribution this may be any timestamp. -/
inductive Restamped : List Char → List Char → Prop where
  | same (line : List Char) : Restamped line line
  | entry {a : Attribution} {front stamp back stamp' : List Char} {t : Timestamp} :
    StampPlace a front stamp back → Timestamp.ofChars? stamp' = some t → t.instant = a.timestamp.instant →
    Restamped (front ++ (stamp ++ back)) (front ++ (stamp' ++ back))
  | other {front stamp back stamp' : List Char} {t t' : Timestamp} :
    attribution? (front ++ (stamp ++ back)) = none →
    Timestamp.ofChars? stamp = some t → Timestamp.ofChars? stamp' = some t' → t'.instant = t.instant →
    Restamped (front ++ (stamp ++ back)) (front ++ (stamp' ++ back))

theorem ofLine_eq_ok_iff {line : List Char} {a : Attribution} :
    Entry.ofLine line = .ok a ↔ ∃ stamp, Entry.columns? line = some (stamp, a.version.toList) ∧
      Timestamp.ofChars? stamp = some a.timestamp := by
  obtain ⟨version, t⟩ := a
  rw [Entry.ofLine]
  cases hc : Entry.columns? line with
  | none => simp
  | some x =>
    obtain ⟨stamp, v⟩ := x
    cases ht : Timestamp.ofChars? stamp with
    | none => simp +contextual [ht]
    | some t' =>
      simp only [ht, Except.ok.injEq, Attribution.mk.injEq, Option.some.injEq, Prod.mk.injEq]
      constructor
      · rintro ⟨rfl, rfl⟩
        exact ⟨stamp, ⟨rfl, by simp⟩, ht⟩
      · rintro ⟨_, ⟨rfl, rfl⟩, hs⟩
        exact ⟨by simp, Option.some.inj (ht.symm.trans hs)⟩

theorem exists_stampPlace {line : List Char} {a : Attribution} (hn : '\n' ∉ line)
    (h : attribution? line = some a) :
    ∃ front stamp back, line = front ++ (stamp ++ back) ∧ StampPlace a front stamp back := by
  obtain ⟨hi, ho⟩ := attribution?_eq_some_iff.1 h
  obtain ⟨stamp, hc, hs⟩ := ofLine_eq_ok_iff.1 ho
  have hclean : '\n' ∉ cleanLine line := fun hm =>
    hn (List.takeWhile_subset _ (Text.trim_subset _ hm))
  obtain ⟨before, after, hline, hplace⟩ := exists_stamp_place hclean hc
  obtain ⟨p, rfl⟩ := exists_parts hs
  obtain ⟨front, back, rfl, hsign, rfl, rfl⟩ := p.exists_line_place hline
  refine ⟨front, p.text, back, rfl, hs, fun stamp' t ht => ?_⟩
  obtain ⟨q, rfl⟩ := exists_parts ht
  apply attribution?_eq_some_iff.2
  constructor
  · rw [introducesVersion_stamp q p, hi]
  · rw [q.cleanLine_text hsign]
    exact ofLine_eq_ok_iff.2 ⟨q.text, hplace q, ht⟩

/-- A line gives an attribution whichever timestamps stand on it. -/
theorem attribution?_stamp {front stamp back stamp' : List Char} {t t' : Timestamp} {a : Attribution}
    (hn : '\n' ∉ front ++ back) (hs : Timestamp.ofChars? stamp = some t)
    (hs' : Timestamp.ofChars? stamp' = some t') (h : attribution? (front ++ (stamp' ++ back)) = some a) :
    ∃ a', attribution? (front ++ (stamp ++ back)) = some a' := by
  obtain ⟨p, rfl⟩ := exists_parts hs
  obtain ⟨q, rfl⟩ := exists_parts hs'
  by_cases hf : '#' ∈ front
  · have hclean : cleanLine (front ++ (p.text ++ back)) = cleanLine (front ++ (q.text ++ back)) := by
      rw [cleanLine, cleanLine, takeWhile_append_of_mem hf, takeWhile_append_of_mem hf]
    exact ⟨a, by rwa [attribution?, readLine?, hclean]⟩
  · obtain ⟨hi, ho⟩ := attribution?_eq_some_iff.1 h
    rw [q.cleanLine_text hf] at ho
    obtain ⟨stamp, hc, hstamp⟩ := ofLine_eq_ok_iff.1 ho
    have hline : '\n' ∉ front.dropWhile Text.isBlank ++ cutContent back := by
      intro hm
      rcases List.mem_append.1 hm with hm | hm
      · exact hn (List.mem_append_left _ ((List.dropWhile_suffix _).subset hm))
      · exact hn (List.mem_append_right _ (List.takeWhile_subset _ ((Text.trimEnd_prefix_self _).subset hm)))
    obtain ⟨stamp', version, hp, hread⟩ := columns?_stamp q p hline hc
    have hvalid : ∃ t, Timestamp.ofChars? stamp' = some t := by
      rcases hread with rfl | rfl
      · exact ⟨_, hstamp⟩
      · exact ⟨_, hs⟩
    obtain ⟨t, ht⟩ := hvalid
    refine ⟨⟨String.ofList version, t⟩, attribution?_eq_some_iff.2 ⟨?_, ?_⟩⟩
    · rw [introducesVersion_stamp p q, hi]
    · rw [p.cleanLine_text hf]
      exact ofLine_eq_ok_iff.2 ⟨stamp', by simpa using hp, ht⟩

/-- A line with another timestamp gives the same version at the same instant, or nothing as before. -/
theorem Restamped.attribution? {line line' : List Char} (h : Restamped line line') (hn : '\n' ∉ line) :
    (attribution? line').map (fun a => (a.version, a.timestamp.instant)) =
      (attribution? line).map (fun a => (a.version, a.timestamp.instant)) := by
  cases h with
  | same => rfl
  | entry hplace hs hinstant =>
    rw [hplace.rereads _ _ hs, hplace.rereads _ _ hplace.reads]
    simp [hinstant]
  | @other front stamp back stamp' _ _ hnone hs hs' =>
    have hends : '\n' ∉ front ++ back := fun hm => hn (by simp at hm ⊢; tauto)
    cases ha : History.attribution? (front ++ (stamp' ++ back)) with
    | none => rw [hnone]
    | some a =>
      obtain ⟨a', ha'⟩ := attribution?_stamp hends hs hs' ha
      rw [hnone] at ha'
      cases ha'

namespace LineHead

variable (h : LineHead) (e : VersionLine)

def beforeStampText : List Char :=
  h.revisionText ++ ' ' :: (h.fileText ++ '(' :: (h.author ++ (spaces h.beforeStamp ++ [' '])))

def afterStampText : List Char :=
  spaces h.beforeNumber ++ ' ' :: (h.number ++ ')' :: e.text)

theorem text_append_eq_place :
    h.text ++ e.text = h.beforeStampText ++ (h.stamp ++ h.afterStampText e) := by
  simp [text, stampText, beforeStampText, afterStampText]

theorem dated_text_append {stamp : List Char} {t : Timestamp} (hs : Timestamp.ofChars? stamp = some t) :
    (h.dated hs).text ++ e.text = h.beforeStampText ++ (stamp ++ h.afterStampText e) :=
  (h.dated hs).text_append_eq_place e

/-- On a line that is put together of columns the place is where its timestamp was put. -/
theorem stampPlace (hc : ∀ column ∈ h.columns, Clear column) (hv : Clear e.version) :
    StampPlace ⟨String.ofList e.version, h.timestamp⟩ h.beforeStampText h.stamp (h.afterStampText e) where
  reads := h.stamp_reads
  rereads stamp t hs := by
    have hread := attribution?_eq_some_iff.2 (ofLine_text_append (h.dated hs) hc e hv)
    rwa [dated_text_append] at hread

end LineHead

end RecipePins.History
