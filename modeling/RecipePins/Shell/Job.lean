import RecipePins.Disk.Editing
import RecipePins.Text.Digits

/-!
# Jobs of tools

A tool gets its arguments, the files and what stands on its standard input, and says what it writes
and what becomes of the files. This is what tools have in common: how options are written, how the
sources named by operands are read, and how messages are worded.
-/
namespace RecipePins.Shell

structure Job where
  files : Disk.Files
  input : ByteArray
  arguments : List String

/-- What a tool leaves behind: its exit code, what it writes to which descriptor, and the files. -/
structure Effect where
  status : Nat := 0
  writes : List (Nat × ByteArray) := []
  files : Disk.Files
  readsInput : Bool := false

def faultText : Disk.Fault → String
  | .missing => "No such file or directory"
  | .denied => "Permission denied"
  | .notDirectory => "Not a directory"
  | .isDirectory => "Is a directory"
  | .nameTooLong => "File name too long"
  | .linkLoop => "Too many levels of symbolic links"
  | .badFormat => "Exec format error"
  | .zeroByte | .notText => "Invalid argument"

namespace Effect

def none (job : Job) : Effect :=
  { files := job.files }

def write (e : Effect) (bs : ByteArray) : Effect :=
  { e with writes := e.writes ++ [(1, bs)] }

def print (e : Effect) (s : String) : Effect :=
  e.write s.toUTF8

/-- The effect with a message, which makes the tool fail. -/
def fail (e : Effect) (tool message : String) (status : Nat) : Effect :=
  { e with writes := e.writes ++ [(2, (tool ++ ": " ++ message ++ "\n").toUTF8)], status }

/-- The effect of a tool that does not understand its arguments. -/
def refuse (e : Effect) (tool message : String) (status : Nat) : Effect :=
  e.fail tool (message ++ "\nTry '" ++ tool ++ " --help' for more information.") status

end Effect

def isPlainChar (c : Char) : Bool :=
  c.isAlphanum || 128 ≤ c.toNat || "_-./+,%@=".toList.contains c

def quotedName (s : String) : String :=
  "'" ++ s ++ "'"

/-- A name as messages show it: in quotation marks if it needs them. -/
def shownName (s : String) : String :=
  if !s.isEmpty && s.toList.all isPlainChar then s else quotedName s

def isOption (s : String) : Bool :=
  s.toList.head? = some '-' && s != "-"

/-- The letters of the options at the front of some arguments, and the arguments after them. -/
def flags : List String → List Char × List String
  | "--" :: rest => ([], rest)
  | s :: rest =>
    if isOption s then
      let (more, operands) := flags rest
      (s.toList.tail ++ more, operands)
    else ([], s :: rest)
  | [] => ([], [])

/-- The bytes of what an operand names; a hyphen names standard input. -/
def source (job : Job) (operand : String) : Except Disk.Fault ByteArray :=
  if operand = "-" || operand = "/dev/stdin" then .ok job.input
  else if operand = "/dev/null" then .ok .empty
  else if operand = "/dev/zero" then .ok ⟨Array.replicate 65536 0⟩
  else job.files.read operand

/-- The effect of something that is done to each source in turn, or to standard input if there is
none. -/
def overSources (job : Job) (operands : List String)
    (complain : String → Disk.Fault → Effect → Effect)
    (use : String → ByteArray → Effect → Effect) : Effect :=
  let operands := if operands.isEmpty then ["-"] else operands
  let start := { Effect.none job with readsInput := operands.contains "-" }
  operands.foldl (fun e operand =>
    match source job operand with
    | .ok content => use operand content e
    | .error fault => complain operand fault e) start

end RecipePins.Shell
