import RecipePins.Shell.Builtin
import RecipePins.Shell.Redirection
import RecipePins.Shell.Tool

/-!
# Running commands and programs

Commands run one after the other on the state of the shell. A command is built in, a function, or a
program; a program is a script, which runs in a shell of its own, or one of the tools. Each step
needs one of `fuel`, since a script may go on for ever.
-/
namespace RecipePins.Shell
open Run

def scriptMark : List UInt8 := ['#'.toUInt8, '!'.toUInt8]

def toolMark : List UInt8 := [127, 'E'.toUInt8, 'L'.toUInt8, 'F'.toUInt8]

/-- The program that runs a script and the argument for it, from the first line of the script. -/
def interpreter? (content : List UInt8) : Option (String × List String) :=
  if scriptMark.isPrefixOf content then
    let line := (content.drop 2).takeWhile (· != 10)
    let s := Text.trim (line.map fun b => Char.ofNat b.toNat)
    let path := s.takeWhile fun c => !Text.isGap c
    let argument := Text.trim (s.drop path.length)
    some (String.ofList path,
      if argument.isEmpty then [] else [String.ofList argument])
  else none

def programName (path : String) : String :=
  (Disk.fileName? path).getD path

def isShell (name : String) : Bool :=
  name == "sh" || name == "dash"

def shellFlags : List String → List Char × List String
  | "--" :: rest => ([], rest)
  | argument :: rest =>
    match argument.toList with
    | '-' :: c :: letters =>
      let (more, rest) := shellFlags rest
      (c :: letters ++ more, rest)
    | _ => ([], argument :: rest)
  | [] => ([], [])

def State.child (st : State) (name : String) (parameters : List String) (letters : List Char) :
    State :=
  { files := st.files, directory := st.files.here.path, name, parameters
    bindings := ("IFS", " \t\n") :: ("PWD", st.files.here.path) ::
      st.bindings.filter fun (v, _) => st.exported.contains v && v != "IFS" && v != "PWD"
    exported := st.exported, process := st.process + 1
    channels := st.channels, descriptors := st.descriptors
    stopsAtFailure := letters.contains 'e', refusesUnset := letters.contains 'u' }

/-- The number of the process that starts programs from outside. -/
def outside : Nat := 4710

/-- Runs something in a shell that is a process of its own. A signal to it is told of, unless it was
started from outside. -/
def asChild (child : State) (body : Run Unit) : Run Unit := do
  let before ← get
  let (result, after) := outcome body { child with files := before.files }
  set { before with
    files := { after.files with here := before.files.here }
    channels := after.channels }
  match result with
  | .error (.killed signal) => do
    if before.process = outside then throw (.killed signal)
    setStatus (128 + signal)
    let text := signalText signal
    if !text.isEmpty then write 2 (bytes (text ++ "\n"))
  | _ => setStatus after.status

def runTool (tool : Job → Effect) (arguments : List String) : Run Unit := do
  let st ← get
  let input := st.readable 0
  let e := tool { files := st.files, input, arguments }
  modify fun st => { st with files := { e.files with here := st.files.here } }
  if e.readsInput then modify (·.consume 0 input.size)
  for (descriptor, bs) in e.writes do write descriptor bs
  setStatus e.status

def setVariables (values : List (String × String)) : Run Unit := do
  for (name, value) in values do modify (·.setVariable name value)

/-- Runs something while variables have other values. -/
def withVariables (values : List (String × String)) (body : Run Unit) : Run Unit := do
  let before ← get
  setVariables values
  modify fun st => { st with exported := values.map Prod.fst ++ st.exported }
  always body do
    for (name, _) in values do
      match before.get? name with
      | some value => modify (·.setVariable name value)
      | none => modify (·.unsetVariable name)
    modify fun st => { st with exported := before.exported }

/-- Runs something as a loop is run: whether the loop goes on after it. -/
def inLoop (body : Run Unit) : Run Bool := do
  let before ← get
  set { before with loops := before.loops + 1 }
  let goesOn ← tryCatch (do body; pure true) fun
    | .loop levels again => do
      modify fun st => { st with loops := before.loops }
      if levels ≤ 1 then pure again else throw (.loop (levels - 1) again)
    | leave => throw leave
  modify fun st => { st with loops := before.loops }
  pure goesOn

/-- Ends the shell if its last command failed and that is to end it. -/
def checkFailure (tested : Bool) : Run Unit := do
  let st ← get
  if st.stopsAtFailure && !tested && st.status ≠ 0 then throw .shell

/-- Runs something up to a point at which it asks to return. -/
def untilReturn (body : Run Unit) : Run Unit :=
  tryCatch body fun
    | .function => pure ()
    | leave => throw leave

def speaking (name : String) (body : Run Unit) : Run Unit := do
  let before := (← get).speaker
  modify fun st => { st with speaker := some name }
  always body (modify fun st => { st with speaker := before })

mutual

/-- Runs a command. A command that is `tested` may fail without ending the shell. -/
def runCommand (fuel : Nat) (tested : Bool) (c : Command) : Run Unit :=
  match fuel with
  | 0 => throw .shell
  | fuel + 1 => do
    match c with
    | .nothing => pure ()
    | .simple line assignments words redirects => do
      modify fun st => { st with line }
      runSimple fuel tested assignments words redirects
      runPending fuel
      checkFailure tested
    | .redirected line body redirects => do
      modify fun st => { st with line }
      withRedirects (outputOf fuel) redirects (runCommand fuel tested body)
      checkFailure tested
    | .subshell line body => do
      modify fun st => { st with line }
      inSubshell (runToEnd fuel (runCommand fuel tested body))
      checkFailure tested
    | .pipe first second => do
      let before := (← get).descriptors
      let n := (← get).channels.size
      inSubshell do
        modify (·.openChannel 1 (.stream .empty))
        runToEnd fuel (runCommand fuel true first)
      modify (·.attach 0 n)
      inSubshell (runToEnd fuel (runCommand fuel tested second))
      modify fun st => { st with descriptors := before }
      checkFailure tested
    | .negated body => do
      runCommand fuel true body
      modify fun st => { st with status := if st.status = 0 then 1 else 0 }
    | .both first second => do
      runCommand fuel true first
      if (← get).status = 0 then runCommand fuel tested second
    | .either first second => do
      runCommand fuel true first
      if (← get).status ≠ 0 then runCommand fuel tested second
    | .sequence first second => do
      runCommand fuel tested first
      runCommand fuel tested second
    | .background body => do
      inSubshell do
        modify (·.openChannel 0 .nowhere)
        runToEnd fuel (runCommand fuel true body)
      setStatus 0
    | .branch condition body otherwise => do
      runCommand fuel true condition
      if (← get).status = 0 then
        setStatus 0
        runCommand fuel tested body
      else
        setStatus 0
        runCommand fuel tested otherwise
    | .loop wanted condition body => runLoop fuel tested wanted condition body 0
    | .each line name items body => do
      modify fun st => { st with line }
      let values ← match items with
        | some words => expandWords (outputOf fuel) words
        | none => pure (← get).parameters
      setStatus 0
      runEach fuel tested name values body
    | .choose line subject arms => do
      modify fun st => { st with line }
      let s ← expandText (outputOf fuel) subject
      setStatus 0
      runArms fuel tested s.toList arms
    | .define name body =>
      modify fun st => { st with
        functions := (name, body) :: st.functions.filter (·.1 != name), status := 0 }

/-- Runs the rounds of a loop; `status` is that of the body's last round. -/
def runLoop (fuel : Nat) (tested wanted : Bool) (condition body : Command) (status : Nat) :
    Run Unit :=
  match fuel with
  | 0 => throw .shell
  | fuel + 1 => do
    let goesOn ← inLoop do
      runCommand fuel true condition
      if ((← get).status == 0) != wanted then
        setStatus status
        throw (.loop 1 false)
      runCommand fuel tested body
    if goesOn then runLoop fuel tested wanted condition body (← get).status

def runEach (fuel : Nat) (tested : Bool) (name : String) (values : List String)
    (body : Command) : Run Unit :=
  match fuel, values with
  | 0, _ => throw .shell
  | _ + 1, [] => pure ()
  | fuel + 1, value :: rest => do
    modify (·.setVariable name value)
    if ← inLoop (runCommand fuel tested body) then runEach fuel tested name rest body

def runArms (fuel : Nat) (tested : Bool) (s : List Char) (arms : List (List Word × Command)) :
    Run Unit :=
  match fuel, arms with
  | 0, _ => throw .shell
  | _ + 1, [] => pure ()
  | fuel + 1, (patterns, body) :: rest => do
    let found ← patterns.anyM fun w => return fits (← expandPattern (outputOf fuel) w) s
    if found then runCommand fuel tested body else runArms fuel tested s rest

def runSimple (fuel : Nat) (tested : Bool) (assignments : List (String × Word))
    (words : List Word) (redirects : List Redirect) : Run Unit :=
  match fuel with
  | 0 => throw .shell
  | fuel + 1 => do
    let run := outputOf fuel
    let valued : Run (List (String × String)) := assignments.mapM fun (name, w) => do
      let value ← expandText run w
      modify (·.setVariable name value)
      pure (name, value)
    modify fun st => { st with substituted := 0 }
    match ← expandWords run words with
    | [] => do
      withRedirects run redirects (setStatus 0)
      if (← get).status = 0 then
        let _ ← valued
        modify fun st => { st with status := st.substituted }
    | "exec" :: arguments => do
      if !(← redirect run redirects) then
        setStatus 2
        throw .shell
      let _ ← valued
      match arguments with
      | [] => setStatus 0
      | name :: arguments => do
        runExternal fuel true name arguments
        throw .shell
    | name :: arguments => do
      if specialNames.contains name then
        withRedirects run redirects do
          let _ ← valued
          runSpecial fuel tested name arguments
        if !redirects.isEmpty && (← get).status = 2 then throw .shell
      else
        withRedirects run redirects do
          let before ← get
          let values ← valued
          modify fun st => { st with bindings := before.bindings }
          withVariables values (runNamed fuel tested name arguments)

/-- Runs a command whose faults end the shell. -/
def runSpecial (fuel : Nat) (tested : Bool) (name : String) (arguments : List String) :
    Run Unit :=
  match fuel with
  | 0 => throw .shell
  | fuel + 1 => do
    match name, arguments with
    | "eval", arguments => do
      setStatus 0
      speaking "eval" (runScript fuel tested 1 (" ".intercalate arguments).toList)
    | ".", [] => setStatus 0
    | ".", path :: _ => do
      if !path.toList.contains '/' then Builtin.quit (".: " ++ path ++ ": not found") 2
      match (← get).files.readText path with
      | .ok script => do
        setStatus 0
        speaking path (untilReturn (runScript fuel tested 1 script.toList))
      | .error fault => Builtin.quit (".: cannot open " ++ path ++ ": " ++ readFaultText fault) 2
    | name, arguments =>
      match Builtin.find? name with
      | some builtin => builtin arguments
      | none => pure ()

def runNamed (fuel : Nat) (tested : Bool) (name : String) (arguments : List String) :
    Run Unit :=
  match fuel with
  | 0 => throw .shell
  | fuel + 1 => do
    let st ← get
    match st.functions.lookup name with
    | some body => do
      set { st with parameters := arguments, loops := 0 }
      always (untilReturn (runCommand fuel tested body)) <|
        modify fun after => { after with parameters := st.parameters, loops := st.loops }
    | none =>
      match name, arguments with
      | "command", "-v" :: name :: _ => do
        if specialNames.contains name || (Builtin.find? name).isSome then
          put (name ++ "\n")
          setStatus 0
        else if (Tool.find? name).isSome || isShell name then
          put ("/usr/bin/" ++ name ++ "\n")
          setStatus 0
        else setStatus 127
      | "command", name :: arguments =>
        match Builtin.find? name with
        | some builtin => builtin arguments
        | none => runExternal fuel false name arguments
      | "type", arguments => do
        setStatus 0
        for name in arguments do
          if specialNames.contains name then put (name ++ " is a special shell builtin\n")
          else if (Builtin.find? name).isSome then put (name ++ " is a shell builtin\n")
          else if (Tool.find? name).isSome || isShell name then
            put (name ++ " is /usr/bin/" ++ name ++ "\n")
          else
            put (name ++ ": not found\n")
            setStatus 127
      | name, arguments =>
        match Builtin.find? name with
        | some builtin => builtin arguments
        | none => runExternal fuel false name arguments

def runExternal (fuel : Nat) (replaces : Bool) (name : String) (arguments : List String) :
    Run Unit :=
  match fuel with
  | 0 => throw .shell
  | fuel + 1 => do
    let start := if replaces then "exec: " ++ name else name
    if name.toList.contains '/' then
      let files := (← get).files
      match files.locate name with
      | .error .nameTooLong => do
        complain (start ++ ": File name too long")
        setStatus 126
      | .error _ => do
        complain (start ++ ": not found")
        setStatus 127
      | .ok l =>
        match files.node? l with
        | some (.file content true) => runProgram fuel name name content arguments
        | _ => do
          complain (start ++ ": Permission denied")
          setStatus 126
    else if name.isEmpty then
      complain (start ++ ": Permission denied")
      setStatus 127
    else if isShell name then runShell fuel name arguments
    else
      match Tool.find? name, name with
      | some tool, _ => runTool tool arguments
      | none, "env" => runIn fuel arguments
      | none, _ => do
        complain (start ++ ": not found")
        setStatus 127

def runIn (fuel : Nat) (arguments : List String) : Run Unit :=
  match fuel with
  | 0 => throw .shell
  | fuel + 1 => do
    match arguments with
    | [] => setStatus 0
    | argument :: rest =>
      let name := String.ofList (argument.toList.takeWhile (· != '='))
      if name.length < argument.length then
        let value := String.ofList (argument.toList.drop (name.length + 1))
        withVariables [(name, value)] (runIn fuel rest)
      else if isShell argument then runShell fuel argument rest
      else match Tool.find? argument with
        | some tool => runTool tool rest
        | none => do
          write 2 (bytes ("env: " ++ quotedName argument ++ ": No such file or directory\n"))
          setStatus 127

/-- Runs the program that a file is, under the name by which it was called. -/
def runProgram (fuel : Nat) (called path : String) (content : ByteArray)
    (arguments : List String) : Run Unit :=
  match fuel with
  | 0 => throw .shell
  | fuel + 1 => do
    match interpreter? content.toList with
    | some (interpreter, first) =>
      runInterpreter fuel (programName interpreter) first path arguments
    | none =>
      if toolMark.isPrefixOf content.toList then
        let name := programName path
        if isShell name then runShell fuel called arguments
        else match Tool.find? name with
          | some tool => runTool tool arguments
          | none =>
            if name = "env" then runIn fuel arguments
            else match Builtin.find? name with
              | some builtin => builtin arguments
              | none => setStatus 127
      else runShell fuel "sh" (path :: arguments)

/-- Runs a script with the program that its first line names. -/
def runInterpreter (fuel : Nat) (name : String) (first : List String) (path : String)
    (arguments : List String) : Run Unit :=
  match fuel with
  | 0 => throw .shell
  | fuel + 1 => do
    match name, first with
    | "env", first :: _ => runInterpreter fuel first [] path arguments
    | name, first =>
      if isShell name then runShell fuel name (first ++ path :: arguments)
      else match Tool.find? name with
        | some tool => runTool tool (first ++ path :: arguments)
        | none => setStatus 127

def runShell (fuel : Nat) (name : String) (arguments : List String) : Run Unit :=
  match fuel with
  | 0 => throw .shell
  | fuel + 1 => do
    let st ← get
    let (letters, rest) := shellFlags arguments
    let child (name : String) (parameters : List String) (script : List Char) : Run Unit :=
      asChild (st.child name parameters letters) (runToEnd fuel (runScript fuel false 1 script))
    if letters.contains 'c' then
      match rest with
      | [] => do
        write 2 (bytes (name ++ ": 0: -c requires an argument\n"))
        setStatus 2
      | [script] => child name [] script.toList
      | script :: name :: parameters => child name parameters script.toList
    else
      match rest with
      | [] => do
        let input := st.readable 0
        modify (·.consume 0 input.size)
        child name [] (Text.lossy input).toList
      | path :: parameters =>
        match st.files.read path with
        | .ok content => child path parameters (Text.lossy content).toList
        | .error fault => do
          write 2 (bytes (name ++ ": 0: cannot open " ++ path ++ ": " ++
            readFaultText fault ++ "\n"))
          setStatus 2

/-- Runs something up to its end, and then what is to be done there. -/
def runToEnd (fuel : Nat) (body : Run Unit) : Run Unit :=
  match fuel with
  | 0 => throw .shell
  | fuel + 1 => do
    tryCatch (untilReturn body) fun
      | .killed signal => throw (.killed signal)
      | _ => pure ()
    let st ← get
    match st.traps.lookup "0" with
    | some action => do
      set { st with traps := st.traps.filter (·.1 != "0") }
      tryCatch (do runScript fuel false 1 action.toList; setStatus st.status) fun
        | .killed signal => throw (.killed signal)
        | _ => pure ()
    | none => pure ()

/-- Runs what signals have asked for. -/
def runPending (fuel : Nat) : Run Unit :=
  match fuel with
  | 0 => throw .shell
  | fuel + 1 => do
    let st ← get
    match st.pending with
    | [] => pure ()
    | action :: rest => do
      set { st with pending := rest }
      runScript fuel false 1 action.toList
      setStatus st.status
      runPending fuel

/-- Runs the commands of a script, of which the first line has a number. -/
def runScript (fuel : Nat) (tested : Bool) (line : Nat) (script : List Char) : Run Unit :=
  match fuel with
  | 0 => throw .shell
  | fuel + 1 => runTokens fuel tested (tokens line script)

def runTokens (fuel : Nat) (tested : Bool) (ts : List Placed) : Run Unit :=
  match fuel with
  | 0 => throw .shell
  | fuel + 1 => do
    match nextCommand ts with
    | .error (line, fault) => do
      modify fun st => { st with line }
      abort ("Syntax error: " ++ fault.message) 2
    | .ok none => pure ()
    | .ok (some (c, rest)) => do
      runCommand fuel tested c
      runTokens fuel tested rest

/-- The output of a script, of which the first line has a number, in a shell of its own. The
newlines at its end are dropped. -/
def outputOf (fuel : Nat) (line : Nat) (script : List Char) : Run (List Char) :=
  match fuel with
  | 0 => throw .shell
  | fuel + 1 => do
    let before ← get
    inSubshell do
      modify (·.openChannel 1 (.stream .empty))
      runToEnd fuel (runScript fuel false line script)
    let after ← get
    set { after with status := before.status, substituted := after.status }
    let output := match after.channels[before.channels.size]? with
      | some (.stream bs) => bs
      | _ => .empty
    let text := (Text.lossy output).toList.filter (· != '\x00')
    pure (text.reverse.dropWhile (· == '\n')).reverse

end

end RecipePins.Shell
