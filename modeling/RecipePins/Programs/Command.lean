import RecipePins.Disk.Files
import RecipePins.Text.CharClass
import RecipePins.Text.Lossy

/-!
# Running commands

A command is a program with arguments, run in some directory. How it is run is left to a launcher;
this module says what a command is called in messages and when its end counts as a failure.
-/
namespace RecipePins.Programs

/-- A program with its arguments, and the directory to run it in if not the current one. -/
structure Command where
  program : String
  arguments : List String
  directory : Option String := none
  deriving DecidableEq, Repr

/-- What a command left behind: its exit code unless a signal ended it, and what it wrote. -/
structure Output where
  code : Option Nat
  stdout : ByteArray := .empty
  stderr : ByteArray := .empty

/-- A way to run commands; it fails if a command cannot be started. -/
abbrev Launcher := Command → Except Disk.Fault Output

inductive Failure where
  | zeroByte (program : String)
  | notStarted (program : String) (fault : Disk.Fault)
  | failed (command : String) (code : Option Nat) (stderr : String)
  deriving DecidableEq, Repr

def codeText : Option Nat → String
  | some code => s!"Some({code})"
  | none => "None"

def Failure.message : Failure → String
  | zeroByte program => s!"failed to spawn `{program}`: nul byte found in provided data"
  | notStarted program fault => s!"failed to spawn `{program}`: {fault.message}"
  | failed command code stderr =>
    s!"`{command}` failed with exit code {codeText code}\n" ++
      String.ofList (Text.trimEnd stderr.toList)

namespace Command

def text (c : Command) : String :=
  " ".intercalate (c.program :: c.arguments)

/-- Whether a part of the command holds a zero byte, which would cut it short. -/
def hasZeroByte (c : Command) : Bool :=
  (c.program :: c.directory.toList ++ c.arguments).any (·.toList.contains '\x00')

def run (launch : Launcher) (c : Command) : Except Failure Output :=
  if c.hasZeroByte then .error (.zeroByte c.program)
  else match launch c with
    | .ok output => .ok output
    | .error fault => .error (.notStarted c.program fault)

/-- The output of a command that has to succeed. -/
def runChecked (launch : Launcher) (c : Command) : Except Failure Output :=
  match c.run launch with
  | .error failure => .error failure
  | .ok output =>
    if output.code = some 0 then .ok output
    else .error (.failed c.text output.code (Text.lossy output.stderr))

end Command

end RecipePins.Programs
