import RecipePins.Cli.Run

/-!
# The command line

Reads the files that a run may need, runs the command line on them, and writes the recipe back if
it changed. No other program is started: the annotation of a descriptor is read from a file saved
beside it, such as `config.yml.blame`.
-/
namespace RecipePins.Main

def withFile (files : Disk.Files) (path : String) : IO Disk.Files := do
  let path := Disk.join files.here.path path
  try
    let content ← IO.FS.readBinFile path
    let real ← IO.FS.realPath path
    let files := files.create real.toString (.file content false)
    pure (if real.toString = path then files else files.create path (.link real.toString))
  catch _ => pure files

def withDirectory (files : Disk.Files) (path : String) : IO Disk.Files := do
  let path := Disk.join files.here.path path
  try
    let real ← IO.FS.realPath path
    pure (if ← real.isDir then files.createDirectory path else files)
  catch _ => pure files

def withFiles (files : Disk.Files) (paths : List String) : IO Disk.Files :=
  paths.foldlM withFile files

/-- The files that updating a recipe may need. -/
def filesFor (surroundings : Cli.Surroundings) (recipe : String) (o : Cli.Options)
    (directory : String) : IO Disk.Files := do
  let start := ({} : Disk.Files).createDirectory directory
  let here := (start.enter directory).toOption.getD start
  let user := surroundings.home.map Config.pathIn
  let project := Config.pathIn directory
  let files ← withFiles here (user.toList ++ o.config.toList ++ [project, recipe])
  let config := (Config.loadLayers files user project o.config).1.toOption.getD {}
  let catalog := Update.candidate files recipe config o.catalog directory
  let files ← withDirectory files catalog
  let text := (files.readText recipe).toOption.getD ""
  let layout : Catalog.Layout := ⟨catalog, config.descriptorName⟩
  let descriptors := (scan config.exclusion text).map fun p => layout.pathOf p.token.name
  withFiles files (descriptors.flatMap fun path => [path, path ++ ".blame"])

def writeBack (recipe : String) (before after : Disk.Files) : IO Unit :=
  match before.read recipe, after.read recipe with
  | .ok old, .ok new => if old.data = new.data then pure () else IO.FS.writeBinFile recipe new
  | _, _ => pure ()

def run (arguments : List String) : IO UInt32 := do
  let surroundings : Cli.Surroundings :=
    { machine := ⟨fun _ => some "git", Catalog.savedAnnotation⟩
      home := ← IO.getEnv "HOME"
      catalog := ← IO.getEnv "PINBUMP_RECIPES_DIR" }
  let directory := (← IO.FS.realPath ".").toString
  let (recipe, files) ← match Cli.readArguments surroundings.catalog arguments with
    | .update recipe o => do pure (some recipe, ← filesFor surroundings recipe o directory)
    | _ => pure (none, {})
  let reply := Cli.run surroundings arguments files
  for path in recipe do
    writeBack path files reply.files
  IO.print reply.stdout
  IO.eprint reply.stderr
  pure reply.code.toUInt32

end RecipePins.Main

/-- Refreshes the pinned dependency versions in a recipe. -/
def main (arguments : List String) : IO UInt32 :=
  RecipePins.Main.run arguments
