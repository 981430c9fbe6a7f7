import RecipePins.Shell.Job

/-!
# Tools for paths

Tools that take paths apart, and that make, move, remove and list what paths lead to.
-/
namespace RecipePins.Shell.Tool

def withoutSlashes (path : String) : String :=
  let s := (path.toList.reverse.dropWhile (· == '/')).reverse
  if s.isEmpty && !path.isEmpty then "/" else String.ofList s

def basename (job : Job) : Effect :=
  match job.arguments with
  | [] => (Effect.none job).refuse "basename" "missing operand" 1
  | path :: rest =>
    let whole := withoutSlashes path
    let last := (whole.toList.reverse.takeWhile (· != '/')).reverse
    let name := if whole = "/" then ['/'] else last
    let ending := (rest.headD "").toList
    let name := if ending.isSuffixOf name && ending ≠ name then
        name.take (name.length - ending.length)
      else name
    (Effect.none job).print (String.ofList name ++ "\n")

def dirname (job : Job) : Effect :=
  if job.arguments.isEmpty then (Effect.none job).refuse "dirname" "missing operand" 1
  else
    let above (path : String) : String :=
      let whole := (withoutSlashes path).toList
      let start := (whole.reverse.dropWhile (· != '/')).reverse
      if start.isEmpty then "." else withoutSlashes (String.ofList start)
    (Effect.none job).print (String.join (job.arguments.map fun p => above p ++ "\n"))

def rm (job : Job) : Effect :=
  let (letters, operands) := flags job.arguments
  let force := letters.contains 'f'
  let deep := letters.contains 'r' || letters.contains 'R'
  if operands.isEmpty && !force then (Effect.none job).refuse "rm" "missing operand" 1
  else operands.foldl (fun e operand =>
    match e.files.entryOf operand with
    | .error fault =>
      if force && (fault = .missing || fault = .notDirectory) then e
      else e.fail "rm" ("cannot remove " ++ quotedName operand ++ ": " ++ faultText fault) 1
    | .ok l =>
      if e.files.hasDirectory l && !deep then
        e.fail "rm" ("cannot remove " ++ quotedName operand ++ ": " ++ faultText .isDirectory) 1
      else { e with files := e.files.remove l }) (Effect.none job)

def rmdir (job : Job) : Effect :=
  let (_, operands) := flags job.arguments
  if operands.isEmpty then (Effect.none job).refuse "rmdir" "missing operand" 1
  else operands.foldl (fun e operand =>
    let failed (text : String) : Effect :=
      e.fail "rmdir" ("failed to remove " ++ quotedName operand ++ ": " ++ text) 1
    match e.files.entryOf operand with
    | .error fault => failed (faultText fault)
    | .ok l =>
      if !e.files.hasDirectory l then failed (faultText .notDirectory)
      else if (e.files.entries l).isEmpty then { e with files := e.files.remove l }
      else failed "Directory not empty") (Effect.none job)

def mkdir (job : Job) : Effect :=
  let (letters, operands) := flags job.arguments
  if operands.isEmpty then (Effect.none job).refuse "mkdir" "missing operand" 1
  else operands.foldl (fun e operand =>
    let failed (text : String) : Effect :=
      e.fail "mkdir" ("cannot create directory " ++ quotedName operand ++ ": " ++ text) 1
    if letters.contains 'p' then
      if e.files.isFile operand then failed "File exists"
      else
        let names := (Disk.Files.names operand).filter fun n => n != "" && n != "."
        let base := Disk.Files.start e.files.here operand
        { e with files := (e.files.makeDirectories base names).1 }
    else match e.files.placeFor (withoutSlashes operand) with
      | .error fault => failed (faultText fault)
      | .ok l =>
        if (e.files.node? l).isSome then failed "File exists"
        else { e with files := e.files.put l .directory }) (Effect.none job)

def touch (job : Job) : Effect :=
  let (_, operands) := flags job.arguments
  if operands.isEmpty then (Effect.none job).refuse "touch" "missing file operand" 1
  else operands.foldl (fun e operand =>
    match e.files.placeFor operand with
    | .error fault =>
      e.fail "touch" ("cannot touch " ++ quotedName operand ++ ": " ++ faultText fault) 1
    | .ok l =>
      if (e.files.node? l).isSome then e
      else { e with files := e.files.setContent l .empty }) (Effect.none job)

/-- The path to which something named by a path goes if it goes to another path. -/
def targetOf (files : Disk.Files) (path target : String) : String :=
  if files.isDirectory target then
    Disk.join target ((Disk.fileName? path).getD "")
  else target

def transfer (tool : String) (moves : Bool) (job : Job) : Effect :=
  let (_, operands) := flags job.arguments
  let e := Effect.none job
  match operands with
  | [] => e.refuse tool "missing file operand" 1
  | [path] => e.refuse tool ("missing destination file operand after " ++ quotedName path) 1
  | path :: target :: _ =>
    let target := targetOf e.files path target
    match e.files.locate path, e.files.placeFor target with
    | .error fault, _ =>
      e.fail tool ("cannot stat " ++ quotedName path ++ ": " ++ faultText fault) 1
    | .ok l, .error fault =>
      let verb := if moves then
          "cannot move " ++ quotedName path ++ " to " ++ quotedName target
        else "cannot create regular file " ++ quotedName target
      if e.files.hasDirectory l && !moves then
        e.fail tool ("-r not specified; omitting directory " ++ quotedName path) 1
      else e.fail tool (verb ++ ": " ++ faultText fault) 1
    | .ok l, .ok m =>
      if e.files.hasDirectory l then
        if moves then
          let below := e.files.nodes.toList.filter fun (k, _) => l.isPrefixOf k
          let files := below.foldl (fun files (k, node) => files.put (m ++ k.drop l.length) node)
            (e.files.remove l)
          { e with files }
        else e.fail tool ("-r not specified; omitting directory " ++ quotedName path) 1
      else
        let files := e.files.setContent m (e.files.content l)
        { e with files := if moves then files.remove l else files }

def ln (job : Job) : Effect :=
  let (letters, operands) := flags job.arguments
  let e := Effect.none job
  match operands with
  | target :: name :: _ =>
    let name := targetOf e.files target name
    match e.files.placeFor name, e.files.read target with
    | .error fault, _ =>
      let text := "failed to create symbolic link " ++ quotedName name ++ ": " ++ faultText fault
      e.fail "ln" text 1
    | .ok l, content =>
      if letters.contains 's' then { e with files := e.files.put l (.link target) }
      else match content with
        | .ok content => { e with files := e.files.setContent l content }
        | .error fault =>
          e.fail "ln" ("failed to access " ++ quotedName target ++ ": " ++ faultText fault) 1
  | _ => e.refuse "ln" "missing file operand" 1

def ls (job : Job) : Effect :=
  let (letters, operands) := flags job.arguments
  let operands := if operands.isEmpty then ["."] else operands
  let inside (operand : String) : String :=
    let names := match job.files.locate operand with
      | .ok l => job.files.entries l
      | .error _ => []
    let shown := if letters.contains 'a' then "." :: ".." :: names
      else if letters.contains 'A' then names
      else names.filter fun n => n.toList.head? != some '.'
    String.join (shown.map (· ++ "\n"))
  let sorted := operands.mergeSort (· ≤ ·)
  let listed := letters.contains 'd'
  let e := operands.foldl (fun e operand =>
    match job.files.locate operand with
    | .ok _ => e
    | .error fault =>
      e.fail "ls" ("cannot access " ++ quotedName operand ++ ": " ++ faultText fault) 2)
    (Effect.none job)
  let single := sorted.filter fun o =>
    job.files.isPresent o && (listed || !job.files.isDirectory o)
  let directories := sorted.filter fun o => !listed && job.files.isDirectory o
  let blocks := directories.map fun o =>
    if operands.length < 2 then inside o else o ++ ":\n" ++ inside o
  let first := String.join (single.map (· ++ "\n"))
  e.print ("\n".intercalate ((if first.isEmpty then [] else [first]) ++ blocks))

end RecipePins.Shell.Tool
