import RecipePins.Shell.Expansion

/-!
# Redirections

A redirection opens a file, a text or another descriptor behind a descriptor. Redirections are made
in order, and the first that fails ends them.
-/
namespace RecipePins.Shell

def readFaultText : Disk.Fault → String
  | .missing | .notDirectory => "No such file"
  | .denied => "Permission denied"
  | .isDirectory => "Is a directory"
  | .nameTooLong => "File name too long"
  | .linkLoop => "Too many levels of symbolic links"
  | .badFormat | .zeroByte | .notText => "Invalid argument"

def writeFaultText : Disk.Fault → String
  | .missing | .notDirectory => "Directory nonexistent"
  | fault => readFaultText fault

namespace Run

def openAt (descriptor : Nat) (c : Channel) : Run Bool := do
  modify (·.openChannel descriptor c)
  pure true

def failToOpen (message : String) : Run Bool := do
  complain message
  pure false

/-- Lets a descriptor lead where another one leads. -/
def shareChannel (descriptor source : Nat) : Run Bool := do
  match (← get).channel? source with
  | some (n, _) => do
    modify (·.attach descriptor n)
    pure true
  | none => failToOpen (toString source ++ ": Bad file descriptor")

def openFile (descriptor : Nat) (access : Access) (path : String) : Run Bool := do
  let files := (← get).files
  match path, access with
  | "/dev/null", _ => openAt descriptor .nowhere
  | "/dev/zero", _ => openAt descriptor .zeros
  | "/dev/stdin", _ => shareChannel descriptor 0
  | "/dev/stdout", _ => shareChannel descriptor 1
  | "/dev/stderr", _ => shareChannel descriptor 2
  | path, .read =>
    match files.locate path with
    | .ok l => openAt descriptor (.file l 0 false)
    | .error fault => failToOpen ("cannot open " ++ path ++ ": " ++ readFaultText fault)
  | path, access =>
    match files.placeFor path with
    | .error fault => failToOpen ("cannot create " ++ path ++ ": " ++ writeFaultText fault)
    | .ok l =>
      if files.hasDirectory l then failToOpen ("cannot create " ++ path ++ ": Is a directory")
      else do
        let content := if access = .write then .empty else files.content l
        modify fun st => { st with files := files.setContent l content }
        openAt descriptor (.file l 0 (access = .append))

/-- Makes redirections; whether all could be made. -/
def redirect (run : Substitution) : List Redirect → Run Bool
  | [] => pure true
  | r :: rest => do
    let made ← match r with
      | .file descriptor access name => do openFile descriptor access (← expandText run name)
      | .document descriptor body => do
        openAt descriptor (.stream (bytes (← expandText run body)))
      | .duplicate descriptor source => do
        let source ← expandText run source
        if source = "-" then
          modify (·.detach descriptor)
          pure true
        else if Text.isDigitRun source.toList then
          shareChannel descriptor (Text.digitsValue source.toList)
        else abort "Syntax error: Bad fd number" 2
    if made then redirect run rest else pure false

/-- Runs something with redirections, which do not outlast it; if one fails, only the status tells
of it. -/
def withRedirects (run : Substitution) (rs : List Redirect) (body : Run Unit) : Run Unit := do
  let before := (← get).descriptors
  always
    (do if ← redirect run rs then body else setStatus 2)
    (modify fun st => { st with descriptors := before })

end Run

end RecipePins.Shell
