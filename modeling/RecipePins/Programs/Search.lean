import RecipePins.Disk.Files

/-!
# Finding programs

A program is looked for in the directories of a search path unless its name has a slash in it, in
which case the name is a path itself.
-/
namespace RecipePins.Programs

structure Environment where
  searchPath : List String
  /-- The program to be used for the annotation of files, if one is set. -/
  git : Option String := none
  deriving DecidableEq, Repr

def find? (files : Disk.Files) (searchPath : List String) (name : String) : Option String :=
  if name.isEmpty then none
  else if name.toList.contains '/' then
    some (Disk.join files.here.path name) |>.filter files.isExecutable
  else (searchPath.map fun dir => Disk.join dir name).find? files.isExecutable

/-- The path of the annotating program: the one that is set if it is found, or else `git`. -/
def Environment.annotator? (env : Environment) (files : Disk.Files) : Option String :=
  (env.git.bind (find? files env.searchPath)).or (find? files env.searchPath "git")

end RecipePins.Programs
