import RecipePins.Catalog.Annotation
import RecipePins.Rewrite.Rewriter
import RecipePins.Update.Discovery

/-!
# Updating a recipe

A recipe is read once and written at most once, after all its pins have outcomes. Only a fault of
the recipe itself or a missing catalog makes an update fail; a dependency that fails is reported.
-/
namespace RecipePins.Update

inductive UpdateError where
  | badConfig (error : ConfigError)
  | noCatalog (path : String)
  | unreadable (path : String) (fault : Disk.Fault)
  | unwritable (path : String) (fault : Disk.Fault)
  deriving DecidableEq, Repr

def UpdateError.message : UpdateError → String
  | badConfig error => error.message
  | noCatalog path =>
    s!"recipes directory not found: {path}\n" ++
      "help: Pass `--recipes-dir <DIR>` or run from inside the recipes repository"
  | unreadable path fault => s!"failed to read file: {path}: {fault.message}"
  | unwritable path fault => s!"failed to write file: {path}: {fault.message}"

/-- What an update did: the report, whether the new text differs, and whether it was written. -/
structure Summary where
  report : Report
  changed : Bool
  written : Bool
  deriving DecidableEq, Repr

structure Ending where
  result : Except UpdateError Summary
  files : Disk.Files
  events : List Event

def manner (r : Resolved) : String :=
  r.strategy.text ++ if r.overridden then ", override" else ""

def updatingEvent? (o : PinOutcome) : Option Event :=
  o.resolved.map fun r => .updating o.pin.token.name o.pin.token.version r.chosen (manner r)

def rewriteEvents (rewrite : Rewrite) (w : Rewriter) : List Event :=
  w.resolver.events ++ rewrite.report.updated.filterMap updatingEvent?

def rewriterOf (config : Config) : Rewriter :=
  ⟨config.exclusion, config.rules, { policy := config.policy }⟩

/-- Brings a recipe up to date from a source. A dry run computes everything and writes nothing. -/
def updateFrom (source : Source) (config : Config) (dryRun : Bool) (recipe : String)
    (files : Disk.Files) : Ending :=
  match files.readText recipe with
  | .error fault => ⟨.error (.unreadable recipe fault), files, []⟩
  | .ok before =>
    let (rewrite, w) := (rewriterOf config).rewrite source before
    let events := rewriteEvents rewrite w
    if rewrite.text = before then ⟨.ok ⟨rewrite.report, false, false⟩, files, events⟩
    else if dryRun then
      ⟨.ok ⟨rewrite.report, true, false⟩, files, events ++ [.leftUnchanged recipe]⟩
    else
      match files.write recipe rewrite.text.toUTF8 with
      | .error fault => ⟨.error (.unwritable recipe fault), files, events⟩
      | .ok files => ⟨.ok ⟨rewrite.report, true, true⟩, files, events⟩

structure Machine where
  git : Disk.Files → Option String
  launch : Disk.Files → Programs.Launcher

def withCommand (git : Option String) (layout : Catalog.Layout) : Event → List Event
  | .lookedUpHistory name =>
    match layout.annotationCommand git name with
    | .ok command => [.lookedUpHistory name, .running command.text]
    | .error _ => [.lookedUpHistory name]
  | event => [event]

/-- Brings a recipe up to date from the catalog on the disk. `directory` is the current directory,
and `explicit` is the catalog's directory if it is asked for. -/
def update (machine : Machine) (config : Config) (explicit : Option String) (dryRun : Bool)
    (directory recipe : String) (files : Disk.Files) : Ending :=
  match findCatalog files recipe config explicit directory with
  | .error path => ⟨.error (.noCatalog path), files, []⟩
  | .ok dir =>
    let layout : Catalog.Layout := ⟨dir, config.descriptorName⟩
    let git := machine.git files
    let source := layout.source files (machine.launch files) git
    let ending := updateFrom source config dryRun recipe files
    { ending with events := .usingCatalog dir :: ending.events.flatMap (withCommand git layout) }

end RecipePins.Update
