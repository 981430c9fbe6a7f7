import RecipePins.Config.Layers

/-!
# Finding the catalog

The catalog's directory is the one that is asked for, else the configured one, else the nearest
directory called `recipes` above the recipe, else the one of that name in the current directory.
-/
namespace RecipePins.Update

/-- The nearest directory of a name above a path, without links and detours if the path exists. -/
def ancestorNamed? (files : Disk.Files) (path name : String) : Option String :=
  (Disk.ancestors ((files.canonical? path).getD path)).find? fun dir =>
    Disk.fileName? dir == some name

/-- The directory that is taken for the catalog, whether or not there is one. -/
def candidate (files : Disk.Files) (recipe : String) (config : Config) (explicit : Option String)
    (directory : String) : String :=
  match explicit, config.recipesDir, ancestorNamed? files recipe "recipes" with
  | some dir, _, _ => dir
  | none, some dir, _ => dir
  | none, none, some dir => dir
  | none, none, none => Disk.join directory "recipes"

/-- The directory of the catalog for a recipe; `directory` is the current directory. On failure, the
path that is no directory. -/
def findCatalog (files : Disk.Files) (recipe : String) (config : Config) (explicit : Option String)
    (directory : String) : Except String String :=
  let dir := candidate files recipe config explicit directory
  if files.isDirectory dir then .ok dir else .error dir

end RecipePins.Update
