import RecipePins.Shell.Condition
import RecipePins.Shell.Format
import RecipePins.Shell.State
import RecipePins.Text.Lossy

/-!
# Built-in commands

The commands that the shell carries out itself and that need no other command to run: they write
texts, decide conditions, and change what the shell knows.
-/
namespace RecipePins.Shell

/-- The commands whose faults end the shell, and whose assignments stay. -/
def specialNames : List String :=
  ["break", ":", "continue", ".", "eval", "exec", "exit", "export", "readonly", "return", "set",
    "shift", "times", "trap", "unset"]

/-- The signals by number, with the words that tell of a process that one has ended. -/
def signals : List (Nat × String × String) :=
  [(1, "HUP", "Hangup"), (2, "INT", ""), (3, "QUIT", "Quit"), (4, "ILL", "Illegal instruction"),
    (5, "TRAP", "Trace/breakpoint trap"), (6, "ABRT", "Aborted"), (7, "BUS", "Bus error"),
    (8, "FPE", "Floating point exception"), (9, "KILL", "Killed"),
    (10, "USR1", "User defined signal 1"), (11, "SEGV", "Segmentation fault"),
    (12, "USR2", "User defined signal 2"), (13, "PIPE", ""), (14, "ALRM", "Alarm clock"),
    (15, "TERM", "Terminated"), (16, "STKFLT", "Stack fault"), (17, "CHLD", ""), (18, "CONT", ""),
    (19, "STOP", ""), (20, "TSTP", ""), (21, "TTIN", ""), (22, "TTOU", ""), (23, "URG", ""),
    (24, "XCPU", "CPU time limit exceeded"), (25, "XFSZ", "File size limit exceeded"),
    (26, "VTALRM", "Virtual timer expired"), (27, "PROF", "Profiling timer expired"),
    (28, "WINCH", ""), (29, "IO", "I/O possible"), (30, "PWR", "Power failure"),
    (31, "SYS", "Bad system call")]

def harmlessSignals : List Nat :=
  [0, 17, 18, 23, 28]

/-- The number of a signal that is given by number or by name. -/
def signalNumber? (s : String) : Option Nat :=
  if Text.isDigitRun s.toList then
    let n := Text.digitsValue s.toList
    if n < 65 then some n else none
  else
    let name := String.ofList (s.toList.map Char.toUpper)
    if name = "EXIT" then some 0
    else (signals.find? fun (_, known, _) => known == name).map Prod.fst

def signalText (n : Nat) : String :=
  ((signals.find? fun (m, _, _) => m == n).map fun (_, _, text) => text).getD ""

namespace Builtin
open Run

def quit {α : Type} (message : String) (status : Nat) : Run α := do
  tell message
  setStatus status
  throw .shell

def fault (name message : String) (status : Nat) : Run Unit := do
  let message := name ++ ": " ++ message
  tell message
  setStatus status
  if specialNames.contains name then throw .shell

def number (name argument : String) : Run Nat := do
  let digits := argument.toList
  if Text.isDigitRun digits && Text.digitsValue digits < Nat.pow 2 31 then
    pure (Text.digitsValue digits)
  else quit (name ++ ": Illegal number: " ++ argument) 2

def writeOut (name : String) (bs : ByteArray) (status : Nat) : Run Unit := do
  match (← get).channel? 1 with
  | some _ => do
    write 1 bs
    setStatus status
  | none => fault name (name ++ ": I/O error") 1

def echo (arguments : List String) : Run Unit := do
  writeOut "echo" ⟨(echoBytes arguments).toArray⟩ 0

def printFormat (format : String) (arguments : List String) : Run Unit := do
  let f := filled format arguments
  for c in f.complaints do tell ("printf: " ++ c)
  writeOut "printf" ⟨f.bytes.toArray⟩ (if f.complaints.isEmpty then 0 else 1)
  if let some message := f.broken then fault "printf" message 2

/-- Fills in a format, which follows two hyphens if it begins like an option. -/
def printf (arguments : List String) : Run Unit := do
  match arguments with
  | [] | ["--"] => fault "printf" "usage: printf format [arg ...]" 2
  | "--" :: format :: rest => printFormat format rest
  | format :: rest =>
    match format.toList with
    | '-' :: c :: _ => fault "printf" ("Illegal option -" ++ String.singleton c) 2
    | _ => printFormat format rest

def test (name : String) (arguments : List String) : Run Unit := do
  let decided (s : List String) : Run Unit := do
    match decideTexts (← get).files s with
    | .ok holds => setStatus (if holds then 0 else 1)
    | .error f => fault name f.message 2
  if name = "[" then
    if arguments.getLast? = some "]" then decided arguments.dropLast
    else fault name "missing ]" 2
  else decided arguments

/-- The names of a path, with each pair of a name and `..` taken out. -/
def plainNames (names : List String) : List String :=
  (names.foldl (fun (above : List String) name =>
    if name = "" || name = "." then above
    else if name = ".." then above.tail
    else name :: above) []).reverse

def cd (arguments : List String) : Run Unit := do
  let arguments := arguments.filter fun a => a != "--" && a != "-L" && a != "-P"
  let st ← get
  let path := match arguments with
    | [] => (st.get? "HOME").getD ""
    | "-" :: _ => (st.get? "OLDPWD").getD st.directory
    | path :: _ => path
  let whole := "/" ++ "/".intercalate (plainNames (Disk.Files.names (Disk.join st.directory path)))
  if path.isEmpty then setStatus 0
  else match st.files.enter whole with
    | .error _ => fault "cd" ("can't cd to " ++ path) 2
    | .ok files => do
      set { ((st.setVariable "OLDPWD" st.directory).setVariable "PWD" whole) with
        files, directory := whole, status := 0 }
      if arguments.head? = some "-" then put (whole ++ "\n")

def pwd (arguments : List String) : Run Unit := do
  let st ← get
  put ((if arguments.contains "-P" then st.files.here.path else st.directory) ++ "\n")
  setStatus 0

def exit : List String → Run Unit
  | [] => throw .shell
  | argument :: _ => do
    setStatus ((← number "exit" argument) % 256)
    throw .shell

/-- Ends the function or the script that is being run. -/
def leave : List String → Run Unit
  | [] => throw .function
  | argument :: _ => do
    setStatus ((← number "return" argument) % 256)
    throw .function

/-- Leaves loops, or goes on with the next round of one. -/
def leaveLoop (name : String) (again : Bool) (arguments : List String) : Run Unit := do
  let n ← match arguments with
    | [] => pure 1
    | argument :: _ => number name argument
  if n = 0 && !arguments.isEmpty then
    quit (name ++ ": Illegal number: " ++ arguments.headD "") 2
  setStatus 0
  let loops := (← get).loops
  if 0 < loops then throw (.loop (min n loops) again)

def shift (arguments : List String) : Run Unit := do
  let n ← match arguments with
    | [] => pure 1
    | argument :: _ => number "shift" argument
  let st ← get
  if st.parameters.length < n then quit "shift: can't shift that many" 2
  else set { st with parameters := st.parameters.drop n, status := 0 }

def setLetters (value : Bool) (letters : List Char) : Run Unit := do
  for c in letters do
    match c with
    | 'e' => modify fun st => { st with stopsAtFailure := value }
    | 'u' => modify fun st => { st with refusesUnset := value }
    | c =>
      if "abCfhmnvxEI".toList.contains c then pure ()
      else quit ("set: Illegal option -" ++ String.singleton c) 2

def setOptions : List String → Run Unit
  | [] => setStatus 0
  | "--" :: rest => modify fun st => { st with parameters := rest, status := 0 }
  | "-o" :: name :: rest => do
    match name with
    | "errexit" => setLetters true ['e']
    | "nounset" => setLetters true ['u']
    | name => quit ("set: Illegal option -o " ++ name) 2
    setOptions rest
  | argument :: rest => do
    match argument.toList with
    | '-' :: c :: letters => do
      setLetters true (c :: letters)
      setOptions rest
    | '+' :: c :: letters => do
      setLetters false (c :: letters)
      setOptions rest
    | _ => modify fun st => { st with parameters := argument :: rest, status := 0 }

def declare (name : String) (arguments : List String) : Run Unit := do
  for argument in arguments.filter (· != "-p") do
    let known := String.ofList (argument.toList.takeWhile (· != '='))
    if !isIdentifier known.toList then quit (name ++ ": " ++ known ++ ": bad variable name") 2
    if known.length < argument.length then
      let value := String.ofList (argument.toList.drop (known.length + 1))
      modify (·.setVariable known value)
    if name = "export" then
      modify fun st => { st with exported := known :: st.exported }
  setStatus 0

def unset (arguments : List String) : Run Unit := do
  let functions := arguments.head? = some "-f"
  for name in arguments.filter fun a => a != "-f" && a != "-v" do
    if functions then
      modify fun st => { st with functions := st.functions.filter (·.1 != name) }
    else modify (·.unsetVariable name)
  setStatus 0

/-- A line without the meaning of its backslashes, and whether it goes on with the next one. -/
def plainLine : List Char → List Char × Bool
  | [] => ([], false)
  | ['\\'] => ([], true)
  | '\\' :: c :: r => let (s, goesOn) := plainLine r; (c :: s, goesOn)
  | c :: r => let (s, goesOn) := plainLine r; (c :: s, goesOn)

/-- The values of some variables from a line: the last one gets all that is left. -/
def shares (separators : List Char) : List String → List Char → List (String × String)
  | [], _ => []
  | [name], s =>
    let isBlank (c : Char) : Bool := separators.contains c && (Text.isGap c || c == '\n')
    let s := ((s.dropWhile isBlank).reverse.dropWhile isBlank).reverse
    [(name, String.ofList s)]
  | name :: rest, s =>
    let isBlank (c : Char) : Bool := separators.contains c && (Text.isGap c || c == '\n')
    let s := s.dropWhile isBlank
    let value := s.takeWhile fun c => !separators.contains c
    let after := (s.drop value.length).dropWhile isBlank
    let after := match after with
      | c :: r => if separators.contains c then r else after
      | [] => []
    (name, String.ofList value) :: shares separators rest after

def read (arguments : List String) : Run Unit := do
  let raw := arguments.contains "-r"
  let names := arguments.filter fun a => a != "-r"
  let st ← get
  let input := (st.readable 0).toList
  let line := input.takeWhile (· != 10)
  let ended := line.length < input.length
  if names.isEmpty then fault "read" "arg count" 2
  else do
    modify (·.consume 0 (if ended then line.length + 1 else line.length))
    let text := (Text.lossy ⟨line.toArray⟩).toList
    let text := if raw then text else (plainLine text).1
    for (name, value) in shares st.separators names text do modify (·.setVariable name value)
    setStatus (if ended then 0 else 1)

def trap (arguments : List String) : Run Unit := do
  let arguments := arguments.filter (· != "--")
  let (action, names) := match arguments with
    | [] => (none, [])
    | [name] => (none, [name])
    | action :: names =>
      if action = "-" then (none, names)
      else if Text.isDigitRun action.toList then (none, action :: names)
      else (some action, names)
  setStatus 0
  for name in names do
    match signalNumber? name with
    | none => do
      write 2 (bytes ("trap: " ++ name ++ ": bad trap\n"))
      setStatus 1
    | some n =>
      let key := toString n
      modify fun st =>
        let others := st.traps.filter (·.1 != key)
        { st with traps := (action.map fun a => (key, a)).toList ++ others }

def signal (n : Nat) : Run Unit := do
  let st ← get
  match if n = 9 || n = 19 then none else st.traps.lookup (toString n) with
  | some "" => setStatus 0
  | some action => set { st with pending := st.pending ++ [action], status := 0 }
  | none =>
    if harmlessSignals.contains n then setStatus 0
    else throw (.killed n)

/-- Sends a signal to processes, of which only the shell itself is there. -/
def signalAll (n : Nat) : List String → Run Unit
  | [] => pure ()
  | process :: rest => do
    let st ← get
    if process = toString st.process then signal n
    else if Text.isDigitRun process.toList then do
      tell "kill: No such process\n"
      setStatus 1
    else fault "kill" ("Illegal number: " ++ process) 2
    signalAll n rest

def kill (arguments : List String) : Run Unit := do
  let usage := "Usage: kill [-s sigspec | -signum | -sigspec] [pid | job]... or\n" ++
    "kill -l [exitstatus]"
  match arguments with
  | "-s" :: name :: processes =>
    match signalNumber? name with
    | some n => if processes.isEmpty then fault "kill" usage 2 else signalAll n processes
    | none => fault "kill" ("invalid signal number or name: " ++ name) 2
  | ["-l", n] => do
    let n ← number "kill" n
    match signals.find? fun (m, _, _) => m == n % 128 with
    | some (_, name, _) => do
      put (name ++ "\n")
      setStatus 0
    | none => fault "kill" ("invalid signal number or exit status: " ++ toString n) 2
  | first :: processes =>
    match first.toList with
    | '-' :: name =>
      match signalNumber? (String.ofList name) with
      | some n => if processes.isEmpty then fault "kill" usage 2 else signalAll n processes
      | none => fault "kill" ("Illegal option -" ++ String.ofList (name.take 1)) 2
    | _ => signalAll 15 arguments
  | [] => fault "kill" usage 2

def find? : String → Option (List String → Run Unit)
  | ":" | "true" | "wait" | "ulimit" | "hash" | "alias" | "times" | "jobs" =>
    some fun _ => setStatus 0
  | "false" => some fun _ => setStatus 1
  | "echo" => some echo
  | "printf" => some printf
  | "test" => some (test "test")
  | "[" => some (test "[")
  | "cd" => some cd
  | "pwd" => some pwd
  | "exit" => some exit
  | "return" => some leave
  | "break" => some (leaveLoop "break" false)
  | "continue" => some (leaveLoop "continue" true)
  | "shift" => some shift
  | "set" => some setOptions
  | "export" => some (declare "export")
  | "readonly" => some (declare "readonly")
  | "local" => some (declare "local")
  | "unset" => some unset
  | "read" => some read
  | "trap" => some trap
  | "kill" => some kill
  | "umask" => some fun arguments => do
    if arguments.isEmpty then put "0022\n"
    setStatus 0
  | _ => none

end Builtin

end RecipePins.Shell
