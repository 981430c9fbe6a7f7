import RecipePins.Cli.Arguments
import RecipePins.Cli.Help
import RecipePins.Update.Log
import RecipePins.Update.Recipe

/-!
# Running a command line

A run reads the configuration, updates the recipe, and shows what happened: the log on standard
output; diagnostics and a summary on standard error.
-/
namespace RecipePins.Cli
open Update

structure Reply where
  code : Nat
  stdout : String
  stderr : String
  files : Disk.Files

structure Surroundings where
  machine : Machine
  home : Option String := none
  catalog : Option String := none

def versionText : String := "pinbump 0.1.0\n"

/-- The diagnostics of the dependencies that failed, each at its first pin in the recipe. -/
def failureDiagnostics (recipe : String) (report : Report) : List Diagnostic :=
  report.failures.map fun (o, e) => e.diagnostic.locatedAt recipe (some o.line)

/-- The warning about problems in history; a verbose one lists them. -/
def notesWarning? (verbose : Bool) (notes : List HistoryNote) : Option Diagnostic :=
  if notes.isEmpty then none
  else
    let message := s!"skipped {notes.length} history entries while ranking"
    if verbose then
      let context := notes.map fun n => s!"{n.package}: {n.problem.message}"
      some { severity := .warning, message, context }
    else
      let suggestions := ["Run with `--verbose` to list the skipped entries"]
      some { severity := .warning, message, suggestions }

def changeLine? (o : PinOutcome) : Option String :=
  o.resolved.map fun r =>
    s!"    {o.pin.token.text} -> {(o.pin.token.withVersion r.chosen).text}\n"

def summaryText (dryRun : Bool) (recipe : String) (report : Report) : String :=
  let count := report.updated.length
  if dryRun then
    s!"Would update {count} pins in {recipe}\n" ++
      String.join (report.updated.filterMap changeLine?)
  else s!"    Updated {count} pins in {recipe}\n"

def reportText (recipe : String) (o : Options) (report : Report) : String :=
  let diagnostics :=
    failureDiagnostics recipe report ++ (notesWarning? o.verbose report.notes).toList
  String.join (diagnostics.map (Diagnostic.render !o.plain)) ++ summaryText o.dryRun recipe report

def errorText (e : UpdateError) : String :=
  s!"error: {e.message}\n"

def runUpdate (surroundings : Surroundings) (recipe : String) (o : Options)
    (files : Disk.Files) : Ending :=
  let directory := files.here.path
  let user := surroundings.home.map Config.pathIn
  let (config, ignored) := Config.loadLayers files user (Config.pathIn directory) o.config
  match config with
  | .error e => ⟨.error (.badConfig e), files, ignored⟩
  | .ok config =>
    let ending := update surroundings.machine config o.catalog o.dryRun directory recipe files
    { ending with events := ignored ++ ending.events }

def run (surroundings : Surroundings) (arguments : List String) (files : Disk.Files) : Reply :=
  match readArguments surroundings.catalog arguments with
  | .invalid => ⟨2, "", helpText surroundings.catalog, files⟩
  | .help => ⟨0, helpText surroundings.catalog, "", files⟩
  | .version => ⟨0, versionText, "", files⟩
  | .update recipe o =>
    let ending := runUpdate surroundings recipe o files
    let stdout := log o.verbose ending.events
    match ending.result with
    | .ok summary => ⟨0, stdout, reportText recipe o summary.report, ending.files⟩
    | .error e => ⟨1, stdout, errorText e, ending.files⟩

end RecipePins.Cli
