import RecipePins.Proofs.Disk.Content
import RecipePins.Proofs.Rewrite.Change
import RecipePins.Update.Recipe

/-!
# What an update leaves

An update fails if its recipe cannot be read as text, or not written although it has to be, and then it
changes nothing. Otherwise it ends well, however many dependencies fail: its report is that of the rewrite,
and the recipe holds the whole rewritten text, or what it held before if the run is dry.
-/
namespace RecipePins

def Config.setup (config : Config) : Setup :=
  ⟨config.exclusion, config.rules, config.policy⟩

namespace Update

variable (source : Source) (config : Config) (dryRun : Bool) (recipe : String) (files : Disk.Files)

/-- The rewrite that an update of a text amounts to. -/
def rewriteOf (text : String) : Rewrite :=
  ((rewriterOf config).rewrite source text).1

/-- A text after the changes that its pins ask for, each pin resolved without memory of the others. -/
def rewritten (text : String) : String :=
  applyOutcomes (config.setup.outcomes source text) text

/-- How a text read from the recipe is updated: the summary gives the report of the rewrite, with an
outcome for every pin that the scan finds, and the files hold the rewritten text, or what they held
before if the run is dry. -/
structure Complete (before : String) (files' : Disk.Files) (summary : Summary) : Prop where
  report_eq : summary.report = (rewriteOf source config before).report
  outcomes_eq : summary.report.outcomes = config.setup.outcomes source before
  outcomes_pin : summary.report.outcomes.map (·.pin) = scan config.exclusion before
  changed_eq : summary.changed = decide (rewritten source config before ≠ before)
  written_eq : summary.written = (summary.changed && !dryRun)
  holds : files.Holds files' recipe
    (if dryRun then before else rewritten source config before).toUTF8
  kept : dryRun = true → files' = files
  changed_iff : config.setup.QuoteFree source →
    (summary.changed = true ↔ summary.report.updated ≠ [])

variable {recipe files}

theorem updateFrom_unreadable {fault : Disk.Fault} (h : files.readText recipe = .error fault) :
    updateFrom source config dryRun recipe files = ⟨.error (.unreadable recipe fault), files, []⟩ := by
  simp only [updateFrom, h]

theorem updateFrom_same {before : String} (h : files.readText recipe = .ok before)
    (he : (rewriteOf source config before).text = before) :
    ∃ events, updateFrom source config dryRun recipe files =
      ⟨.ok ⟨(rewriteOf source config before).report, false, false⟩, files, events⟩ := by
  unfold rewriteOf at he
  simp only [updateFrom, h, if_pos he]
  exact ⟨_, rfl⟩

theorem updateFrom_dry {before : String} (h : files.readText recipe = .ok before)
    (he : (rewriteOf source config before).text ≠ before) :
    ∃ events, updateFrom source config true recipe files =
      ⟨.ok ⟨(rewriteOf source config before).report, true, false⟩, files, events⟩ := by
  unfold rewriteOf at he
  simp only [updateFrom, h, if_neg he]
  exact ⟨_, rfl⟩

/-- An update asks to write a recipe that refuses it. -/
def Refused (recipe : String) (files : Disk.Files) (before : String) : Prop :=
  dryRun = false ∧ rewritten source config before ≠ before ∧ files.ReadOnly recipe

theorem updateFrom_write {before : String} (h : files.readText recipe = .ok before)
    (he : (rewriteOf source config before).text ≠ before) (hw : ¬ files.ReadOnly recipe) :
    ∃ files', files.Holds files' recipe (rewriteOf source config before).text.toUTF8 ∧
      ∃ events, updateFrom source config false recipe files =
        ⟨.ok ⟨(rewriteOf source config before).report, true, true⟩, files', events⟩ := by
  obtain ⟨files', hwrite, hh⟩ := Disk.Files.exists_write (Disk.Files.read_of_readText h) hw
    (rewriteOf source config before).text.toUTF8
  refine ⟨files', hh, ?_⟩
  unfold rewriteOf at he hwrite
  simp only [updateFrom, h, if_neg he, hwrite]
  exact ⟨_, rfl⟩

theorem rewriteOf_text (text : String) :
    (rewriteOf source config text).text = rewritten source config text :=
  (Setup.Serves.fresh config.setup source).rewrite_text text

/-- The end of an update whose recipe can be read but not written. -/
theorem updateFrom_refused {before : String} (h : files.readText recipe = .ok before)
    (hw : Refused source config dryRun recipe files before) :
    ∃ events, updateFrom source config dryRun recipe files =
      ⟨.error (.unwritable recipe .denied), files, events⟩ := by
  obtain ⟨rfl, he, hr⟩ := hw
  have hwrite := Disk.Files.write_of_readOnly (Disk.Files.read_of_readText h) hr
    (rewriteOf source config before).text.toUTF8
  rw [← rewriteOf_text] at he
  unfold rewriteOf at he hwrite
  simp only [updateFrom, h, if_neg he, hwrite]
  exact ⟨_, rfl⟩

/-- The end of an update whose recipe can be read, and written if need be. -/
theorem updateFrom_readable {before : String} (h : files.readText recipe = .ok before)
    (hw : ¬ Refused source config dryRun recipe files before) :
    (updateFrom source config dryRun recipe files).result =
        .ok ⟨(rewriteOf source config before).report,
          decide ((rewriteOf source config before).text ≠ before),
          decide ((rewriteOf source config before).text ≠ before) && !dryRun⟩ ∧
      files.Holds (updateFrom source config dryRun recipe files).files recipe
        (if dryRun then before else (rewriteOf source config before).text).toUTF8 ∧
      (dryRun = true → (updateFrom source config dryRun recipe files).files = files) := by
  have hread := Disk.Files.read_of_readText h
  by_cases he : (rewriteOf source config before).text = before
  · obtain ⟨events, hu⟩ := updateFrom_same source config dryRun h he
    rw [hu, decide_eq_false (not_not_intro he), he, ite_self]
    exact ⟨rfl, Disk.Files.holds_refl hread, fun _ => rfl⟩
  · rw [decide_eq_true he]
    cases dryRun with
    | true =>
      obtain ⟨events, hu⟩ := updateFrom_dry source config h he
      rw [hu]
      exact ⟨rfl, Disk.Files.holds_refl hread, fun _ => rfl⟩
    | false =>
      have hfree : ¬ files.ReadOnly recipe := fun hr => hw ⟨rfl, rewriteOf_text source config before ▸ he, hr⟩
      obtain ⟨files', hh, events, hu⟩ := updateFrom_write source config h he hfree
      rw [hu]
      exact ⟨rfl, hh, fun hd => by cases hd⟩

theorem rewriteOf_outcomes (text : String) :
    (rewriteOf source config text).report.outcomes = config.setup.outcomes source text :=
  (Setup.Serves.fresh config.setup source).rewrite_outcomes text

theorem outcomes_pin (text : String) :
    (config.setup.outcomes source text).map (·.pin) = scan config.exclusion text := by
  rw [Setup.outcomes, List.map_map]
  exact List.map_id _

theorem exists_complete {before : String} (h : files.readText recipe = .ok before)
    (hw : ¬ Refused source config dryRun recipe files before) :
    ∃ summary, (updateFrom source config dryRun recipe files).result = .ok summary ∧
      Complete source config dryRun recipe files before
        (updateFrom source config dryRun recipe files).files summary := by
  obtain ⟨hr, hh, hd⟩ := updateFrom_readable source config dryRun h hw
  rw [rewriteOf_text] at hr hh
  have ho := rewriteOf_outcomes source config before
  refine ⟨_, hr, rfl, ho, ho ▸ outcomes_pin source config before, rfl, rfl, hh, hd, fun hq => ?_⟩
  rw [decide_eq_true_iff, ← rewriteOf_text]
  exact rewrite_text_ne_iff hq (Setup.Serves.fresh config.setup source)

def alone (content : ByteArray) (readOnly : List Disk.Location) : Disk.Files :=
  { ({} : Disk.Files).put ["recipe"] (.file content false) with readOnly := readOnly }

variable (content : ByteArray) (readOnly : List Disk.Location)

theorem node?_alone : (alone content readOnly).node? ["recipe"] = some (.file content false) :=
  (Disk.Files.node?_put (.file content false) (by decide) ["recipe"]).trans (if_pos rfl)

theorem locate_alone : (alone content readOnly).locate "recipe" = .ok ["recipe"] := by
  have hfollow (links : Nat) : (alone content readOnly).follow links [] ["recipe"] = .ok ["recipe"] := by
    rw [Disk.Files.follow_name rfl (by decide) (by decide) (node?_alone content readOnly) (by simp),
      Disk.Files.follow]
    rfl
  have hnames : Disk.Files.names "recipe" = ["recipe"] := by decide +kernel
  have hstart : Disk.Files.start (alone content readOnly).here "recipe" = [] := ite_self _
  rw [Disk.Files.locate, if_neg (by decide), if_neg (by decide), if_neg (by decide), hnames, hstart, hfollow]

theorem read_alone : (alone content readOnly).read "recipe" = .ok content := by
  simp only [Disk.Files.read, locate_alone, node?_alone]

variable (recipe files)

/-- An update fails exactly if its recipe cannot be read as text or refuses to be written, and then the
files stay as they are. Otherwise it is complete, however many dependencies fail. The report does not hang
on whether the run is dry, unless the recipe refuses the run that is not. -/
theorem update_all_or_nothing :
    (∀ fault, files.readText recipe = .error fault →
      updateFrom source config dryRun recipe files =
        ⟨.error (.unreadable recipe fault), files, []⟩) ∧
    (∀ before, files.readText recipe = .ok before →
      (Refused source config dryRun recipe files before → ∃ events,
        updateFrom source config dryRun recipe files =
          ⟨.error (.unwritable recipe .denied), files, events⟩) ∧
      (¬ Refused source config dryRun recipe files before → ∃ summary,
        (updateFrom source config dryRun recipe files).result = .ok summary ∧
        Complete source config dryRun recipe files before
          (updateFrom source config dryRun recipe files).files summary)) ∧
    ((updateFrom source config true recipe files).result.map Summary.report =
        (updateFrom source config false recipe files).result.map Summary.report ∨
      (updateFrom source config false recipe files).result = .error (.unwritable recipe .denied)) := by
  refine ⟨fun _ h => updateFrom_unreadable source config dryRun h, fun _ h =>
    ⟨updateFrom_refused source config dryRun h, exists_complete source config dryRun h⟩, ?_⟩
  cases h : files.readText recipe with
  | error fault =>
    left
    rw [updateFrom_unreadable source config _ h, updateFrom_unreadable source config _ h]
  | ok before =>
    by_cases hw : Refused source config false recipe files before
    · right
      obtain ⟨events, hu⟩ := updateFrom_refused source config false h hw
      rw [hu]
    · left
      have hdry : ¬ Refused source config true recipe files before := fun hd => by cases hd.1
      rw [(updateFrom_readable source config true h hdry).1, (updateFrom_readable source config false h hw).1]
      rfl

theorem garbled_kept_and_half_failed_written :
    updateFrom KeptAnswers.sample.toSource {} false "recipe" (alone ⟨#[0xFF]⟩ []) =
        ⟨.error (.unreadable "recipe" .notText), alone ⟨#[0xFF]⟩ [], []⟩ ∧
      (∃ events, updateFrom KeptAnswers.sample.toSource {} false "recipe"
          (alone "'zlib/1.2.13'".toUTF8 [["recipe"]]) =
        ⟨.error (.unwritable "recipe" .denied), alone "'zlib/1.2.13'".toUTF8 [["recipe"]], events⟩) ∧
      ∃ summary, (updateFrom KeptAnswers.sample.toSource {} false "recipe"
            (alone "\"zlib/1.2.13\" 'boost/1.80'".toUTF8 [])).result = .ok summary ∧
          summary.written = true ∧ summary.report.outcomes.map (·.pin.token.name) = ["zlib", "boost"] ∧
          (updateFrom KeptAnswers.sample.toSource {} false "recipe"
            (alone "\"zlib/1.2.13\" 'boost/1.80'".toUTF8 [])).files.read "recipe" =
              .ok "\"zlib/1.3.1\" 'boost/1.80'".toUTF8 := by
  obtain ⟨hbad, -, -⟩ := update_all_or_nothing KeptAnswers.sample.toSource {} false "recipe"
    (alone ⟨#[0xFF]⟩ [])
  obtain ⟨-, hsealed, -⟩ := update_all_or_nothing KeptAnswers.sample.toSource {} false "recipe"
    (alone "'zlib/1.2.13'".toUTF8 [["recipe"]])
  obtain ⟨-, hgood, -⟩ := update_all_or_nothing KeptAnswers.sample.toSource {} false "recipe"
    (alone "\"zlib/1.2.13\" 'boost/1.80'".toUTF8 [])
  have ht : rewritten KeptAnswers.sample.toSource {} "\"zlib/1.2.13\" 'boost/1.80'" =
      "\"zlib/1.3.1\" 'boost/1.80'" := by decide +kernel
  refine ⟨hbad .notText ?garbled, (hsealed _ (Disk.Files.readText_of_read (read_alone ..))).1 ?sealed, ?_⟩
  case garbled =>
    have hnone : String.fromUTF8? ⟨#[0xFF]⟩ = none := by decide +kernel
    simp only [Disk.Files.readText, read_alone, hnone]
  case sealed =>
    exact ⟨rfl, by decide +kernel, ["recipe"], locate_alone .., List.mem_singleton_self _⟩
  have hfree : ¬ Refused KeptAnswers.sample.toSource {} false "recipe"
      (alone "\"zlib/1.2.13\" 'boost/1.80'".toUTF8 []) "\"zlib/1.2.13\" 'boost/1.80'" := by
    rintro ⟨-, -, l, -, hm⟩
    cases hm
  obtain ⟨summary, hr, hc⟩ := (hgood _ (Disk.Files.readText_of_read (read_alone ..))).2 hfree
  have hq : (Config.setup {}).QuoteFree KeptAnswers.sample.toSource :=
    quoteFree_of_kept (by decide +kernel) (by decide +kernel)
  have hu : summary.report.updated ≠ [] := by
    rw [hc.report_eq]
    decide +kernel
  have hread := hc.holds.read_eq
  rw [if_neg Bool.false_ne_true, ht] at hread
  refine ⟨summary, hr, ?_, ?_, hread⟩
  · rw [hc.written_eq, (hc.changed_iff hq).2 hu]
    rfl
  · rw [hc.report_eq]
    decide +kernel

end Update

end RecipePins
