import RecipePins.Programs.Command
import RecipePins.Programs.Search
import RecipePins.Shell.Run

/-!
# Launching programs

A program that is started from outside has the files of the machine, an empty standard input, and
two streams to write to. Whether it can be started at all is decided before anything runs.
-/
namespace RecipePins.Shell

def stepLimit : Nat := 20000

/-- What a program leaves behind that starts with some files and no input. -/
def outputOfRun (files : Disk.Files) (name : String) (body : Run Unit) : Programs.Output :=
  let st : State :=
    { files, name, directory := files.here.path, process := outside
      bindings := [("IFS", " \t\n"), ("PWD", files.here.path)] }
  let (result, after) := Run.outcome body st
  let written (n : Nat) : ByteArray := match after.channels[n]? with
    | some (.stream bs) => bs
    | _ => .empty
  let code := match result with
    | .error (.killed _) => none
    | _ => some after.status
  { code, stdout := written 1, stderr := written 2 }

/-- Whether a file can be started as a program: it is a tool, or a script for a program that is
there. -/
def startFault? (files : Disk.Files) (content : ByteArray) : Option Disk.Fault :=
  match interpreter? content.toList with
  | some (interpreter, _) =>
    match files.locate interpreter with
    | .error fault => some fault
    | .ok _ => if files.isExecutable interpreter then none else some .denied
  | none => if toolMark.isPrefixOf content.toList then none else some .badFormat

/-- Starts a command: a program is looked for on the search path unless its name has a slash. -/
def launch (searchPath : List String) (files : Disk.Files) : Programs.Launcher := fun c =>
  match c.directory.elim (.ok files) files.enter with
  | .error fault => .error fault
  | .ok files =>
    let path := if c.program.toList.contains '/' then some c.program
      else Programs.find? files searchPath c.program
    match path with
    | none =>
      if Disk.Files.maxName < c.program.utf8ByteSize && searchPath.any files.isDirectory then
        .error .nameTooLong
      else .error .missing
    | some path =>
      match files.locate path with
      | .error fault => .error fault
      | .ok l =>
        match files.node? l with
        | some (.file content true) =>
          match startFault? files content with
          | some fault => .error fault
          | none =>
            .ok (outputOfRun files (programName path)
              (runProgram stepLimit c.program path content c.arguments))
        | _ => .error .denied

end RecipePins.Shell
