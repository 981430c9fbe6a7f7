import RecipePins.Disk.Editing
import RecipePins.Shell.Command

/-!
# The state of a shell

What a running shell knows and has open: files and the current directory, parameters, variables and
functions, and the channels behind its descriptors. Two descriptors of one channel share what was
read and written. A computation of the shell may leave early: the loop or the function it is in, or
the shell itself.
-/
namespace RecipePins.Shell

/-- What a descriptor reads from or writes to. -/
inductive Channel where
  | nowhere
  | zeros
  /-- Bytes that were written and not read yet. -/
  | stream (bytes : ByteArray)
  | file (place : Disk.Location) (position : Nat) (appends : Bool)

structure State where
  files : Disk.Files
  /-- The current directory as the shell came to it. -/
  directory : String
  /-- The name under which the shell or its script runs. -/
  name : String
  parameters : List String := []
  bindings : List (String × String) := [("IFS", " \t\n")]
  exported : List String := []
  functions : List (String × Command) := []
  /-- What is to be done at signals and at the end. -/
  traps : List (String × String) := []
  /-- The command within which a script is run that is not a script of its own. -/
  speaker : Option String := none
  /-- Scripts that signals have asked for and that are still to run. -/
  pending : List String := []
  status : Nat := 0
  /-- The status of the last command whose output was asked for. -/
  substituted : Nat := 0
  /-- The number of loops that are being run. -/
  loops : Nat := 0
  line : Nat := 1
  process : Nat
  channels : Array Channel := #[.nowhere, .stream .empty, .stream .empty]
  descriptors : List (Nat × Nat) := [(0, 0), (1, 1), (2, 2)]
  stopsAtFailure : Bool := false
  refusesUnset : Bool := false

/-- How a computation of the shell ends early. -/
inductive Leave where
  /-- The shell ends with its status. -/
  | shell
  | killed (signal : Nat)
  /-- So many loops end, or the last of them goes on with its next round. -/
  | loop (levels : Nat) (again : Bool)
  | function
  deriving DecidableEq, Repr

abbrev Run := ExceptT Leave (StateM State)

def bytes (s : String) : ByteArray :=
  s.toUTF8

namespace State

def get? (st : State) (name : String) : Option String :=
  st.bindings.lookup name

def setVariable (st : State) (name value : String) : State :=
  { st with bindings := (name, value) :: st.bindings.filter (·.1 != name) }

def unsetVariable (st : State) (name : String) : State :=
  { st with bindings := st.bindings.filter (·.1 != name) }

/-- The characters at which the values of parameters are split. -/
def separators (st : State) : List Char :=
  ((st.get? "IFS").getD " \t\n").toList

/-- What stands between the parameters when they are joined. -/
def joint (st : State) : String :=
  String.ofList (st.separators.take 1)

def value? (st : State) (name : String) : Option String :=
  match name with
  | "@" => some (" ".intercalate st.parameters)
  | "*" => some (st.joint.intercalate st.parameters)
  | "#" => some (toString st.parameters.length)
  | "?" => some (toString st.status)
  | "$" => some (toString st.process)
  | "!" => some ""
  | "-" => some (String.ofList ((if st.stopsAtFailure then ['e'] else []) ++
      (if st.refusesUnset then ['u'] else [])))
  | "0" => some st.name
  | name =>
    match name.toNat? with
    | some n => if name.toList.all Char.isDigit then st.parameters[n - 1]? else none
    | none => st.get? name

def channel? (st : State) (descriptor : Nat) : Option (Nat × Channel) :=
  match st.descriptors.lookup descriptor with
  | some n => st.channels[n]?.map fun c => (n, c)
  | none => none

def attach (st : State) (descriptor channel : Nat) : State :=
  { st with
    descriptors := (descriptor, channel) :: st.descriptors.filter (·.1 != descriptor) }

def detach (st : State) (descriptor : Nat) : State :=
  { st with descriptors := st.descriptors.filter (·.1 != descriptor) }

def openChannel (st : State) (descriptor : Nat) (c : Channel) : State :=
  { st with channels := st.channels.push c }.attach descriptor st.channels.size

/-- A file's bytes with others written at a position; the bytes between are zero. -/
def overwritten (content : ByteArray) (position : Nat) (bs : ByteArray) : ByteArray :=
  let gap := ByteArray.mk (Array.replicate (position - content.size) 0)
  content.extract 0 position ++ gap ++ bs ++ content.extract (position + bs.size) content.size

def write (st : State) (descriptor : Nat) (bs : ByteArray) : State :=
  match st.channel? descriptor with
  | some (n, .stream old) =>
    { st with channels := st.channels.setIfInBounds n (.stream (old ++ bs)) }
  | some (n, .file l position appends) =>
    let content := st.files.content l
    let position := if appends then content.size else position
    { st with
      files := st.files.setContent l (overwritten content position bs)
      channels := st.channels.setIfInBounds n (.file l (position + bs.size) appends) }
  | _ => st

/-- The bytes that can be read from a descriptor, which stay there. -/
def readable (st : State) (descriptor : Nat) : ByteArray :=
  match st.channel? descriptor with
  | some (_, .stream bs) => bs
  | some (_, .file l position _) =>
    let content := st.files.content l
    content.extract position content.size
  | some (_, .zeros) => ⟨Array.replicate 65536 0⟩
  | some (_, .nowhere) | none => .empty

def consume (st : State) (descriptor count : Nat) : State :=
  match st.channel? descriptor with
  | some (n, .stream bs) =>
    { st with channels := st.channels.setIfInBounds n (.stream (bs.extract count bs.size)) }
  | some (n, .file l position appends) =>
    { st with channels := st.channels.setIfInBounds n (.file l (position + count) appends) }
  | _ => st

/-- How the shell begins its messages. -/
def messageStart (st : State) : String :=
  s!"{st.name}: {st.line}: "

end State

namespace Run

def write (descriptor : Nat) (bs : ByteArray) : Run Unit :=
  modify (·.write descriptor bs)

def put (s : String) : Run Unit :=
  write 1 (bytes s)

def outcome {α : Type} (body : Run α) (st : State) : Except Leave α × State :=
  (ExceptT.run body).run st

/-- Runs something, and then something else, also if the former leaves early. -/
def always (body after : Run Unit) : Run Unit := do
  tryCatch body fun leave => do
    after
    throw leave
  after

/-- Writes a message of a built-in command. -/
def tell (message : String) : Run Unit := do
  write 2 (bytes ((← get).messageStart ++ message ++ "\n"))

/-- Writes a message of the shell, which names the command for which it runs a script. -/
def complain (message : String) : Run Unit := do
  match (← get).speaker with
  | some speaker => tell (speaker ++ ": " ++ message)
  | none => tell message

def setStatus (n : Nat) : Run Unit :=
  modify fun st => { st with status := n }

def abort {α : Type} (message : String) (status : Nat) : Run α := do
  complain message
  setStatus status
  throw .shell

/-- Runs something in a shell of its own, of which only its status, the files and what was read and
written remain. A signal to the process ends the shells above as well. -/
def inSubshell (body : Run Unit) : Run Unit := do
  let before ← get
  let (result, after) := outcome body { before with traps := [] }
  set { before with
    files := { after.files with here := before.files.here }
    channels := after.channels
    status := after.status }
  match result with
  | .error (.killed signal) => throw (.killed signal)
  | _ => pure ()

end Run

end RecipePins.Shell
