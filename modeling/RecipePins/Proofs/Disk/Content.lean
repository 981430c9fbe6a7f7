import RecipePins.Disk.Files

/-!
# Writing a file

A file that is written holds what was written, and only a read-only one refuses. Nothing else changes: every path leads where it led
before, since only directories and links bear on that, and every other place keeps what stands there.
-/
namespace RecipePins.Disk

namespace Files

/-- Two trees that are told apart by the contents of files only, as far as following a path goes. -/
structure SameWays (files files' : Files) : Prop where
  here_eq : files'.here = files.here
  missing : ∀ l, files'.node? l = none ↔ files.node? l = none
  directory : ∀ l, files'.node? l = some .directory ↔ files.node? l = some .directory
  link : ∀ l target, files'.node? l = some (.link target) ↔ files.node? l = some (.link target)

namespace SameWays

variable {files files' : Files}

theorem hasDirectory_eq (h : SameWays files files') (l : Location) :
    files'.hasDirectory l = files.hasDirectory l := by
  have hiff (files : Files) : files.hasDirectory l = true ↔ files.node? l = some .directory := by
    unfold hasDirectory
    split
    · next ho => simp [ho]
    · next ho => simpa using ho
  rw [Bool.eq_iff_iff, hiff, hiff, h.directory]

theorem follow_eq (h : SameWays files files') (links : Nat) (here : Location) (rest : List String) :
    files'.follow links here rest = files.follow links here rest := by
  fun_induction follow files links here rest with
  | case1 => rw [follow]
  | case2 links here name rest hd => rw [follow, h.hasDirectory_eq, if_pos hd]
  | case3 links here name rest hd hn ih => rw [follow, h.hasDirectory_eq, if_neg hd, if_pos hn, ih]
  | case4 links here rest hd hn ih =>
    rw [follow, h.hasDirectory_eq, if_neg hd, if_neg hn, if_pos rfl, ih]
  | case5 links here name rest hd hn hu hl =>
    rw [follow, h.hasDirectory_eq, if_neg hd, if_neg hn, if_neg hu, if_pos hl]
  | case6 links here name rest hd hn hu hl ho =>
    rw [follow, h.hasDirectory_eq, if_neg hd, if_neg hn, if_neg hu, if_neg hl, (h.missing _).2 ho]
  | case7 here name rest hd hn hu hl target ho =>
    rw [follow, h.hasDirectory_eq, if_neg hd, if_neg hn, if_neg hu, if_neg hl, (h.link _ _).2 ho]
  | case8 here name rest hd hn hu hl target ho links ih =>
    rw [follow, h.hasDirectory_eq, if_neg hd, if_neg hn, if_neg hu, if_neg hl, (h.link _ _).2 ho]
    exact ih
  | case9 links here name rest hd hn hu hl node hnode ho ih =>
    rw [follow, h.hasDirectory_eq, if_neg hd, if_neg hn, if_neg hu, if_neg hl]
    split
    · next ho' =>
      rw [h.missing, ho] at ho'
      cases ho'
    · next target ho' =>
      rw [h.link, ho] at ho'
      exact absurd (Option.some.inj ho') (hnode target)
    · exact ih

theorem locate_eq (h : SameWays files files') (path : String) :
    files'.locate path = files.locate path := by
  unfold locate
  rw [h.here_eq, h.follow_eq]

end SameWays

theorem node?_put {files : Files} {l : Location} (node : Node) (hl : l ≠ []) (other : Location) :
    (files.put l node).node? other = if other = l then some node else files.node? other := by
  unfold node? put
  by_cases ho : other = l
  · subst ho
    rw [if_pos rfl, if_neg (by simp [hl])]
    exact Std.ExtTreeMap.getElem?_insert_self
  · rw [if_neg ho]
    split
    · rfl
    · rw [Std.ExtTreeMap.getElem?_insert, if_neg]
      intro hc
      exact ho (Std.LawfulEqCmp.compare_eq_iff_eq.1 hc).symm

/-- The name of a file or a directory leads on to it. -/
theorem follow_name {files : Files} {links : Nat} {l : Location} {name : String} {rest : List String}
    {node : Node} (hd : files.hasDirectory l = true) (hname : name ≠ "" ∧ name ≠ "." ∧ name ≠ "..")
    (hsize : name.utf8ByteSize ≤ maxName) (hn : files.node? (l ++ [name]) = some node)
    (hlink : ∀ target, node ≠ .link target) :
    files.follow links l (name :: rest) = files.follow links (l ++ [name]) rest := by
  have hstay : ¬(name = "" || name = ".") = true := by simp [hname]
  rw [follow, hd, Bool.not_true, if_neg Bool.false_ne_true, if_neg hstay, if_neg hname.2.2,
    if_neg (Nat.not_lt.2 hsize), hn]
  cases node with
  | link target => exact absurd rfl (hlink target)
  | directory => rfl
  | file content executable => rfl

/-- A file with another content leads every path the same way. -/
theorem sameWays_put {files : Files} {l : Location} {content content' : ByteArray}
    {executable : Bool} (hl : files.node? l = some (.file content executable)) :
    SameWays files (files.put l (.file content' executable)) := by
  have hne : l ≠ [] := by
    rintro rfl
    cases hl
  refine ⟨rfl, fun other => ?_, fun other => ?_, fun other target => ?_⟩ <;>
    rw [node?_put _ hne] <;> split <;> simp_all

/-- What a path to a file leads to, and what writing there does. -/
theorem read_eq_ok {files : Files} {path : String} {content : ByteArray}
    (h : files.read path = .ok content) : ∃ l executable, files.locate path = .ok l ∧
      files.node? l = some (.file content executable) := by
  unfold read at h
  split at h
  · cases h
  · next l hl =>
    split at h
    · next executable hn => exact ⟨l, executable, hl, by rw [hn, Except.ok.inj h]⟩
    · cases h
    · cases h

/-- The files `files'` hold `content` where the path leads, and are the files `files` besides. -/
structure Holds (files files' : Files) (path : String) (content : ByteArray) : Prop where
  read_eq : files'.read path = .ok content
  locate_eq : ∀ other, files'.locate other = files.locate other
  read_other : ∀ other, files.locate other ≠ files.locate path → files'.read other = files.read other

theorem holds_refl {files : Files} {path : String} {content : ByteArray}
    (h : files.read path = .ok content) : Holds files files path content :=
  ⟨h, fun _ => rfl, fun _ _ => rfl⟩

/-- The file to which a path leads refuses to be written. -/
def ReadOnly (files : Files) (path : String) : Prop :=
  ∃ l, files.locate path = .ok l ∧ l ∈ files.readOnly

/-- A file that can be read and is not read-only can be written, and then holds what was written. -/
theorem exists_write {files : Files} {path : String} {old : ByteArray} (h : files.read path = .ok old)
    (hw : ¬ files.ReadOnly path) (content : ByteArray) :
    ∃ files', files.write path content = .ok files' ∧ Holds files files' path content := by
  obtain ⟨l, executable, hl, hn⟩ := read_eq_ok h
  have hfree : l ∉ files.readOnly := fun hm => hw ⟨l, hl, hm⟩
  have hne : l ≠ [] := by
    rintro rfl
    cases hn
  have hways : SameWays files (files.put l (.file content executable)) := sameWays_put hn
  refine ⟨files.put l (.file content executable), ?_, ?_, hways.locate_eq, ?_⟩
  · simp only [write, hl, hn, put, if_neg hfree]
  · simp only [read, hways.locate_eq, hl, node?_put _ hne, if_true]
  · intro other ho
    rw [hl] at ho
    simp only [read, hways.locate_eq]
    cases hother : files.locate other with
    | error fault => rfl
    | ok l' =>
      have hl' : l' ≠ l := fun he => ho (hother.trans (congrArg Except.ok he))
      simp only [node?_put _ hne, if_neg hl']

theorem write_of_readOnly {files : Files} {path : String} {old : ByteArray} (h : files.read path = .ok old)
    (hw : files.ReadOnly path) (content : ByteArray) : files.write path content = .error .denied := by
  obtain ⟨l, executable, hl, hn⟩ := read_eq_ok h
  obtain ⟨l', hl', hm⟩ := hw
  obtain rfl : l' = l := Except.ok.inj (hl'.symm.trans hl)
  simp only [write, hl, hn, if_pos hm]

theorem read_of_readText {files : Files} {path text : String} (h : files.readText path = .ok text) :
    files.read path = .ok text.toUTF8 := by
  unfold readText at h
  split at h
  · cases h
  · next content hr =>
    split at h
    · next text' hs =>
      obtain rfl := Except.ok.inj h
      rw [hr]
      unfold String.fromUTF8? at hs
      split at hs
      · obtain rfl := Option.some.inj hs
        rfl
      · cases hs
    · cases h

/-- A file that can be read is there. -/
theorem isPresent_of_readText {files : Files} {path text : String} (h : files.readText path = .ok text) :
    files.isPresent path = true := by
  obtain ⟨l, executable, hl, hn⟩ := read_eq_ok (read_of_readText h)
  simp only [isPresent, lookup, hl, hn, Option.isSome_some]

theorem readText_of_read {files : Files} {path text : String}
    (h : files.read path = .ok text.toUTF8) : files.readText path = .ok text := by
  have hs : String.fromUTF8? text.toUTF8 = some text := by
    unfold String.fromUTF8?
    split
    · rfl
    · next hv => exact absurd text.isValidUTF8 (by simpa using hv)
  unfold readText
  simp only [h, hs]

end Files

end RecipePins.Disk
