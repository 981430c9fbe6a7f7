import RecipePins.Config.Layers
import RecipePins.Proofs.Config.Layering
import RecipePins.Proofs.Disk.Content
import RecipePins.Proofs.Disk.Parent

/-!
# Configurations from files

Loading fails only with the file that is named explicitly. Otherwise the files that hold a configuration
are layered in their order, and those that are missing or broken leave no trace. The catalog directory is
that of the highest layer which sets one, taken from the directory of the file of this layer.
-/
namespace RecipePins.Config

structure FileLayer where
  path : String
  own : Config

/-- What a file brings into the layers: its relative catalog directory starts at its own directory. -/
def FileLayer.anchored (l : FileLayer) : Config :=
  l.own.anchoredAt l.path

/-- The configuration that is written in a file, if it can be read and is valid. -/
def own? (files : Disk.Files) (path : String) : Option Config :=
  (files.readText path).toOption.bind ofText?

def fileLayers (files : Disk.Files) (paths : List String) : List FileLayer :=
  paths.filterMap fun path => (own? files path).map (FileLayer.mk path)

/-- The catalog directory of some layers: the one that the highest layer to set one is written with,
joined to the directory of the file of this layer if it is relative. -/
inductive TopmostDir (layers : List FileLayer) : Option String → Prop
  | unset (h : ∀ l ∈ layers, l.own.recipesDir = none) : TopmostDir layers none
  | absolute {lower upper : List FileLayer} {l : FileLayer} {dir : String}
      (hl : layers = lower ++ l :: upper) (hu : ∀ u ∈ upper, u.own.recipesDir = none)
      (hd : l.own.recipesDir = some dir) (ha : Disk.isAbsolute dir = true) : TopmostDir layers (some dir)
  | relative {lower upper : List FileLayer} {l : FileLayer} {dir base : String}
      (hl : layers = lower ++ l :: upper) (hu : ∀ u ∈ upper, u.own.recipesDir = none)
      (hd : l.own.recipesDir = some dir) (ha : Disk.isAbsolute dir = false)
      (hb : Disk.parent? l.path = some base) : TopmostDir layers (some (Disk.join base dir))

/-- What is loaded from the user's file, the project's file and an explicit file. -/
structure Loaded (files : Disk.Files) (user : Option String) (project : String) (explicit : Option String)
    (result : Except ConfigError Config) : Prop where
  fails_iff : (∃ e, result = .error e) ↔ ∃ path, explicit = some path ∧ own? files path = none
  unreadable : ∀ path fault, explicit = some path → files.readText path = .error fault →
    result = .error (.unreadable path fault)
  malformed : ∀ path text, explicit = some path → files.readText path = .ok text →
    ofText? text = none → result = .error (.malformed path)
  eq_layered : ∀ c, result = .ok c → c =
    { layered ((fileLayers files (user.toList ++ project :: explicit.toList)).map FileLayer.own) with
      recipesDir := c.recipesDir }
  recipesDir : ∀ c, result = .ok c →
    TopmostDir (fileLayers files (user.toList ++ project :: explicit.toList)) c.recipesDir

variable {files : Disk.Files} {path : String}

theorem own?_eq_some_iff {c : Config} :
    own? files path = some c ↔ ∃ text, files.readText path = .ok text ∧ ofText? text = some c := by
  rw [own?, Option.bind_eq_some_iff]
  cases files.readText path <;> simp [Except.toOption]

/-- A file gives what is written in it, with its relative catalog directory at its own directory. -/
theorem toOption_load (files : Disk.Files) (path : String) :
    (load files path).toOption = (own? files path).map (·.anchoredAt path) := by
  unfold load own?
  cases files.readText path with
  | error fault => rfl
  | ok text =>
    simp only [Except.toOption, Option.bind_some]
    cases ofText? text <;> rfl

/-- An optional file counts as empty unless it gives a configuration. -/
theorem loadOptional_fst (files : Disk.Files) (path : String) :
    (loadOptional files path).1 = (load files path).toOption.getD {} := by
  unfold loadOptional
  split
  · cases load files path <;> rfl
  · next hp =>
    rw [toOption_load]
    cases h : own? files path with
    | none => rfl
    | some c =>
      obtain ⟨text, ht, -⟩ := own?_eq_some_iff.1 h
      exact absurd (Disk.Files.isPresent_of_readText ht) hp

/-- A file on top of some layers is one more layer if it gives a configuration, and none otherwise. -/
theorem layered_merge_load (files : Disk.Files) (layers : List FileLayer) (path : String) :
    (layered (layers.map FileLayer.anchored)).merge ((load files path).toOption.getD {}) =
      layered ((layers ++ fileLayers files [path]).map FileLayer.anchored) := by
  rw [toOption_load]
  cases h : own? files path with
  | none => simp [fileLayers, h, merge_unset]
  | some c => simp [fileLayers, h, layered_append_singleton, FileLayer.anchored]

/-- What the user's file and the project's file give. -/
def optional (files : Disk.Files) (user : Option String) (project : String) : Config :=
  layered ((fileLayers files (user.toList ++ [project])).map FileLayer.anchored)

theorem optional_none (files : Disk.Files) (project : String) :
    optional files none project = (({} : Config).merge {}).merge (loadOptional files project).1 := by
  rw [loadOptional_fst, merge_unset]
  exact (layered_merge_load files [] project).symm

theorem optional_some (files : Disk.Files) (path project : String) :
    optional files (some path) project =
      (({} : Config).merge (loadOptional files path).1).merge (loadOptional files project).1 := by
  have hbottom : ({} : Config).merge (loadOptional files path).1 =
      layered ((fileLayers files [path]).map FileLayer.anchored) := by
    rw [loadOptional_fst]
    exact layered_merge_load files [] path
  rw [hbottom, loadOptional_fst, layered_merge_load, fileLayers, fileLayers, ← List.filterMap_append]
  rfl

theorem loadLayers_none (files : Disk.Files) (user : Option String) (project : String) :
    (loadLayers files user project none).1 = .ok (optional files user project) := by
  cases user with
  | none => exact congrArg Except.ok (optional_none files project).symm
  | some below => exact congrArg Except.ok (optional_some files below project).symm

/-- The explicit file goes on top of the optional ones. -/
theorem loadLayers_some (files : Disk.Files) (user : Option String) (project path : String) :
    (loadLayers files user project (some path)).1 =
      (load files path).map (optional files user project).merge := by
  cases user with
  | none =>
    rw [optional_none]
    cases h : load files path <;> simp only [loadLayers, h, Except.map]
  | some below =>
    rw [optional_some]
    cases h : load files path <;> simp only [loadLayers, h, Except.map]

/-- Anchoring changes nothing but the catalog directory. -/
theorem layered_anchored (layers : List FileLayer) :
    layered (layers.map FileLayer.anchored) =
      { layered (layers.map FileLayer.own) with
        recipesDir := (layered (layers.map FileLayer.anchored)).recipesDir } := by
  have hone (l : FileLayer) : l.anchored = { l.own with recipesDir := l.anchored.recipesDir } := by
    unfold FileLayer.anchored anchoredAt
    split <;> rfl
  induction layers using List.reverseRecOn with
  | nil => rfl
  | append_singleton layers l ih =>
    rw [List.map_append, List.map_append, List.map_singleton, List.map_singleton,
      layered_append_singleton, layered_append_singleton, ih, hone l]
    rfl

theorem exists_parent_of_own? {c : Config} (h : own? files path = some c) :
    ∃ base, Disk.parent? path = some base := by
  obtain ⟨text, ht, -⟩ := own?_eq_some_iff.1 h
  exact Disk.Files.exists_parent ht

theorem TopmostDir.append_unset {layers : List FileLayer} {dir : Option String} {l : FileLayer}
    (h : TopmostDir layers dir) (hl : l.own.recipesDir = none) : TopmostDir (layers ++ [l]) dir := by
  have hall {upper : List FileLayer} (hu : ∀ u ∈ upper, u.own.recipesDir = none) :
      ∀ u ∈ upper ++ [l], u.own.recipesDir = none := by
    simpa [or_imp, forall_and, hl] using hu
  cases h with
  | unset h => exact .unset (hall h)
  | absolute h hu hd ha => exact .absolute (by rw [h, List.append_assoc, List.cons_append]) (hall hu) hd ha
  | relative h hu hd ha hb =>
    exact .relative (by rw [h, List.append_assoc, List.cons_append]) (hall hu) hd ha hb

theorem TopmostDir.append_set (layers : List FileLayer) {l : FileLayer} {dir base : String}
    (hd : l.own.recipesDir = some dir) (hb : Disk.parent? l.path = some base) :
    TopmostDir (layers ++ [l]) (some (Disk.join base dir)) := by
  cases ha : Disk.isAbsolute dir with
  | true =>
    rw [Disk.join, ha, Bool.true_or, if_pos rfl]
    exact .absolute rfl (List.forall_mem_nil _) hd ha
  | false => exact .relative rfl (List.forall_mem_nil _) hd ha hb

/-- Layers of files in directories have the catalog directory of the topmost layer to set one. -/
theorem topmostDir_anchored {layers : List FileLayer}
    (h : ∀ l ∈ layers, ∃ base, Disk.parent? l.path = some base) :
    TopmostDir layers (layered (layers.map FileLayer.anchored)).recipesDir := by
  induction layers using List.reverseRecOn with
  | nil => exact .unset (List.forall_mem_nil _)
  | append_singleton layers l ih =>
    rw [List.forall_mem_append, List.forall_mem_singleton] at h
    obtain ⟨base, hb⟩ := h.2
    have hown : l.anchored.recipesDir = l.own.recipesDir.map (Disk.join base) := by
      simp only [FileLayer.anchored, anchoredAt, hb]
    rw [List.map_append, List.map_singleton, layered_append_singleton, merge, hown]
    cases hd : l.own.recipesDir with
    | none => exact (ih h.1).append_unset hd
    | some dir => exact .append_set layers hd hb

/-- A file that is named explicitly decides whether loading fails; no other file does. What is loaded is
what the valid files say, those further up over those below, with the catalog directory of the topmost
file that sets one. -/
theorem loadLayers_loaded (files : Disk.Files) (user : Option String) (project : String)
    (explicit : Option String) :
    Loaded files user project explicit (loadLayers files user project explicit).1 := by
  have happend (top : List String) : fileLayers files (user.toList ++ project :: top) =
      fileLayers files (user.toList ++ [project]) ++ fileLayers files top := by
    rw [fileLayers, fileLayers, fileLayers, ← List.filterMap_append, List.append_assoc,
      List.singleton_append]
  have hanchored (c : Config) (h : (loadLayers files user project explicit).1 = .ok c) :
      c = layered ((fileLayers files (user.toList ++ project :: explicit.toList)).map
        FileLayer.anchored) := by
    cases explicit with
    | none =>
      rw [loadLayers_none] at h
      exact (Except.ok.inj h).symm
    | some path =>
      rw [Option.toList_some, happend, ← layered_merge_load, ← optional]
      rw [loadLayers_some] at h
      cases hl : load files path with
      | error e =>
        rw [hl] at h
        cases h
      | ok top =>
        rw [hl] at h
        exact (Except.ok.inj h).symm
  have hplaced : ∀ l ∈ fileLayers files (user.toList ++ project :: explicit.toList),
      ∃ base, Disk.parent? l.path = some base := by
    intro l hl
    obtain ⟨path, -, hp⟩ := List.mem_filterMap.1 hl
    obtain ⟨own, ho, rfl⟩ := Option.map_eq_some_iff.1 hp
    exact exists_parent_of_own? ho
  exact {
    fails_iff := by
      cases explicit with
      | none => simp [loadLayers_none]
      | some path =>
        have hload : own? files path = none ↔ (load files path).toOption = none := by
          rw [toOption_load, Option.map_eq_none_iff]
        simp only [loadLayers_some, Option.some.injEq, exists_eq_left', hload]
        cases load files path <;> simp [Except.map, Except.toOption]
    unreadable := by
      rintro path fault rfl h
      simp only [loadLayers_some, load, h, Except.map]
    malformed := by
      rintro path text rfl h hc
      simp only [loadLayers_some, load, h, hc, Except.map]
    eq_layered := fun c h => by
      rw [hanchored c h]
      exact layered_anchored _
    recipesDir := fun c h => by
      rw [hanchored c h]
      exact topmostDir_anchored hplaced }

/-- A tree with a configuration in a directory, and beside the directory a text that is none. -/
def sampleFiles : Disk.Files :=
  ((({} : Disk.Files).put ["etc"] .directory).put ["etc", "pins"]
    (.file "[catalog]\nrecipes_dir = 'recipes'\n".toUTF8 false)).put ["pins"] (.file "[".toUTF8 false)

theorem readText_sampleFiles :
    sampleFiles.readText "etc/pins" = .ok "[catalog]\nrecipes_dir = 'recipes'\n" ∧
    sampleFiles.readText "pins" = .ok "[" := by
  have hetc : sampleFiles.node? ["etc"] = some .directory := by
    simp [sampleFiles, Disk.Files.node?_put]
  have hown : sampleFiles.node? ["etc", "pins"] =
      some (.file "[catalog]\nrecipes_dir = 'recipes'\n".toUTF8 false) := by
    simp [sampleFiles, Disk.Files.node?_put]
  have hbroken : sampleFiles.node? ["pins"] = some (.file "[".toUTF8 false) := by
    simp [sampleFiles, Disk.Files.node?_put]
  have hdir : sampleFiles.hasDirectory ["etc"] = true := by simp only [Disk.Files.hasDirectory, hetc]
  have hnames : Disk.Files.names "etc/pins" = ["etc", "pins"] ∧ Disk.Files.names "pins" = ["pins"] := by
    decide +kernel
  have hstart (path : String) : Disk.Files.start sampleFiles.here path = [] := ite_self _
  have hlocate : sampleFiles.locate "etc/pins" = .ok ["etc", "pins"] := by
    rw [Disk.Files.locate, if_neg (by decide), if_neg (by decide), if_neg (by decide), hstart, hnames.1,
      Disk.Files.follow_name rfl (by decide) (by decide) hetc (by simp), List.nil_append,
      Disk.Files.follow_name hdir (by decide) (by decide) hown (by simp), Disk.Files.follow]
    rfl
  have hlocate' : sampleFiles.locate "pins" = .ok ["pins"] := by
    rw [Disk.Files.locate, if_neg (by decide), if_neg (by decide), if_neg (by decide), hstart, hnames.2,
      Disk.Files.follow_name rfl (by decide) (by decide) hbroken (by simp), Disk.Files.follow]
    rfl
  exact ⟨Disk.Files.readText_of_read (by simp only [Disk.Files.read, hlocate, hown]),
    Disk.Files.readText_of_read (by simp only [Disk.Files.read, hlocate', hbroken])⟩

theorem own_directory_beside_broken_file :
    (∃ c, (loadLayers sampleFiles (some "etc/pins") "pins" none).1 = .ok c ∧
      c.recipesDir = some "etc/recipes") ∧
    (loadLayers sampleFiles (some "etc/pins") "pins" (some "pins")).1 = .error (.malformed "pins") := by
  have hbad : ofText? "[" = none := by decide +kernel
  have hown : own? sampleFiles "pins" = none := by
    simp only [own?, readText_sampleFiles.2, Except.toOption, Option.bind_some, hbad]
  obtain ⟨c, hc, hdir⟩ : ∃ c, own? sampleFiles "etc/pins" = some c ∧ c.recipesDir = some "recipes" := by
    simp only [own?, readText_sampleFiles.1, Except.toOption, Option.bind_some]
    exact Option.bind_eq_some_iff.1 (by decide +kernel)
  refine ⟨?_, (loadLayers_loaded ..).malformed "pins" "[" rfl readText_sampleFiles.2 hbad⟩
  have hl : Loaded sampleFiles (some "etc/pins") "pins" none _ := loadLayers_loaded ..
  cases hr : (loadLayers sampleFiles (some "etc/pins") "pins" none).1 with
  | error e =>
    obtain ⟨path, hp, -⟩ := hl.fails_iff.1 ⟨e, hr⟩
    cases hp
  | ok loaded =>
    refine ⟨loaded, rfl, ?_⟩
    have hlayers : fileLayers sampleFiles ["etc/pins", "pins"] = [⟨"etc/pins", c⟩] := by
      simp [fileLayers, hc, hown]
    have htop : TopmostDir [⟨"etc/pins", c⟩] loaded.recipesDir := by
      rw [← hlayers]
      exact hl.recipesDir loaded hr
    have hone {lower upper : List FileLayer} {l : FileLayer}
        (h : [⟨"etc/pins", c⟩] = lower ++ l :: upper) : l = ⟨"etc/pins", c⟩ :=
      List.mem_singleton.1 (h ▸ List.mem_append_right lower List.mem_cons_self)
    generalize loaded.recipesDir = dir at htop
    cases htop with
    | unset h =>
      rw [List.forall_mem_singleton, hdir] at h
      cases h
    | absolute h hu hd ha =>
      rw [hone h, hdir] at hd
      obtain rfl := Option.some.inj hd
      exact absurd ha (by decide)
    | relative h hu hd ha hb =>
      rw [hone h, hdir] at hd
      obtain rfl := Option.some.inj hd
      rw [hone h] at hb
      have hparent : Disk.parent? "etc/pins" = some "etc" := by decide +kernel
      obtain rfl := Option.some.inj (hparent.symm.trans hb)
      decide +kernel

end RecipePins.Config
