import RecipePins.Config.Reading
import RecipePins.Disk.Files
import RecipePins.Resolve.Event

/-!
# Configuration files

A configuration is layered from up to three files: the user's, the project's, and one that is named
explicitly. The first two are optional, and one that is missing or broken counts as empty; the last
one has to be readable and valid. A relative catalog directory is taken from the directory of the
file that sets it.
-/
namespace RecipePins

inductive ConfigError where
  | unreadable (path : String) (fault : Disk.Fault)
  | malformed (path : String)
  deriving DecidableEq, Repr

def ConfigError.message : ConfigError → String
  | unreadable path fault => s!"failed to read config file: {path}: {fault.message}"
  | malformed path => "failed to parse config file: " ++ path

namespace Config

/-- The configuration with a relative catalog directory taken from the directory of a file. -/
def anchoredAt (path : String) (c : Config) : Config :=
  match Disk.parent? path with
  | some base => { c with recipesDir := c.recipesDir.map (Disk.join base) }
  | none => c

def load (files : Disk.Files) (path : String) : Except ConfigError Config :=
  match files.readText path with
  | .error fault => .error (.unreadable path fault)
  | .ok text =>
    match ofText? text with
    | some c => .ok (c.anchoredAt path)
    | none => .error (.malformed path)

/-- The configuration that an optional file holds, and the event if it is ignored. -/
def loadOptional (files : Disk.Files) (path : String) : Config × List Event :=
  if files.isPresent path then
    match load files path with
    | .ok c => (c, [])
    | .error e => ({}, [.configIgnored path e.message])
  else ({}, [])

/-- The configuration that the user's file, the project's file and an explicit file give together,
each layered on top of those before it. -/
def loadLayers (files : Disk.Files) (user : Option String) (project : String)
    (explicit : Option String) : Except ConfigError Config × List Event :=
  let (bottom, ignored) := match user with
    | some path => loadOptional files path
    | none => ({}, [])
  let (middle, ignoredToo) := loadOptional files project
  let under := (({} : Config).merge bottom).merge middle
  match explicit with
  | none => (.ok under, ignored ++ ignoredToo)
  | some path =>
    match load files path with
    | .ok top => (.ok (under.merge top), ignored ++ ignoredToo)
    | .error e => (.error e, ignored ++ ignoredToo)

def pathIn (directory : String) : String :=
  Disk.join (Disk.join directory ".pinbump") "config.toml"

end Config

end RecipePins
