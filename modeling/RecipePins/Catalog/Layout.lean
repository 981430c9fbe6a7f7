import RecipePins.Catalog.Descriptor
import RecipePins.Config.Basic
import RecipePins.Disk.Files

/-!
# The layout of a catalog

Every dependency has a directory of its own below the catalog's directory, and its descriptor is a
file there.
-/
namespace RecipePins.Catalog

/-- The directory of a catalog and the file name of its descriptors. -/
structure Layout where
  directory : String := "recipes"
  descriptor : String := Config.standardDescriptor
  deriving DecidableEq, Repr

namespace Layout

def pathOf (layout : Layout) (name : String) : String :=
  Disk.join (Disk.join layout.directory name) layout.descriptor

def versions (files : Disk.Files) (layout : Layout) (name : String) :
    Except Unresolved (List String) :=
  let path := layout.pathOf name
  if files.isFile path then
    match files.readText path with
    | .ok content => readVersions name content
    | .error fault => .error (.malformed name s!"failed to read {path}: {fault.message}")
  else .error (.noDescriptor name path)

end Layout

end RecipePins.Catalog
