import RecipePins.Shell.Condition
import RecipePins.Shell.Tool.Contents
import RecipePins.Shell.Tool.Paths

/-!
# Tools

The small programs that scripts use, by their names, with those that need neither contents nor
paths: they write texts and numbers, decide conditions, or wait.
-/
namespace RecipePins.Shell.Tool

/-- Whole numbers in steps up to a last one; `fuel` bounds how many. -/
def countFrom (fuel : Nat) (n step last : Int) : List Int :=
  match fuel with
  | 0 => []
  | fuel + 1 =>
    if (0 ≤ step && last < n) || (step < 0 && n < last) then []
    else n :: countFrom fuel (n + step) step last

def seq (job : Job) : Effect :=
  let e := Effect.none job
  let shown (first step last : Int) : Effect :=
    let fuel := ((last - first).natAbs / max 1 step.natAbs) + 1
    e.print (String.join ((countFrom fuel first step last).map fun n => toString n ++ "\n"))
  match job.arguments.mapM fun s => s.toInt?.map fun n => (s, n) with
  | none =>
    match job.arguments.find? fun s => s.toInt?.isNone with
    | some s => e.refuse "seq" ("invalid floating point argument: " ++ quotedName s) 1
    | none => e
  | some [] => e.refuse "seq" "missing operand" 1
  | some [(_, last)] => shown 1 1 last
  | some [(_, first), (_, last)] => shown first 1 last
  | some ((_, first) :: (s, step) :: (_, last) :: _) =>
    if step = 0 then e.refuse "seq" ("invalid Zero increment value: " ++ quotedName s) 1
    else shown first step last

/-- Writes a line again and again; there is no end to it, so only as many are written as a reader
can be expected to take. -/
def yes (job : Job) : Effect :=
  let line := if job.arguments.isEmpty then "y" else " ".intercalate job.arguments
  (Effect.none job).print (String.join (List.replicate 8192 (line ++ "\n")))

def echo (job : Job) : Effect :=
  match job.arguments with
  | "-n" :: rest => (Effect.none job).print (" ".intercalate rest)
  | "-e" :: rest => (Effect.none job).write ⟨(echoBytes rest).toArray⟩
  | rest => (Effect.none job).print (" ".intercalate rest ++ "\n")

def printf (job : Job) : Effect :=
  match job.arguments with
  | [] => (Effect.none job).refuse "printf" "missing operand" 1
  | format :: rest =>
    let f := filled format rest
    (Effect.none job).write ⟨f.bytes.toArray⟩

def test (name : String) (job : Job) : Effect :=
  let e := Effect.none job
  let decided (s : List String) : Effect :=
    match decideTexts job.files s with
    | .ok true => e
    | .ok false => { e with status := 1 }
    | .error fault => e.fail name fault.message 2
  if name = "[" then
    if job.arguments.getLast? = some "]" then decided job.arguments.dropLast
    else e.fail name "missing ']'" 2
  else decided job.arguments

/-- Waits, which takes no time here. -/
def sleep (job : Job) : Effect :=
  match job.arguments with
  | [] => (Effect.none job).refuse "sleep" "missing operand" 1
  | s :: _ =>
    if s.toList.all fun c => c.isDigit || c == '.' then Effect.none job
    else (Effect.none job).refuse "sleep" ("invalid time interval " ++ quotedName s) 1

def find? : String → Option (Job → Effect)
  | "true" => some Effect.none
  | "false" => some fun job => { Effect.none job with status := 1 }
  | "cat" => some cat
  | "head" => some (showParts "head" '-' firstPart)
  | "tail" => some (showParts "tail" '+' lastPart)
  | "wc" => some wc
  | "tr" => some tr
  | "seq" => some seq
  | "sort" => some sort
  | "uniq" => some uniq
  | "basename" => some basename
  | "dirname" => some dirname
  | "rm" => some rm
  | "rmdir" => some rmdir
  | "mkdir" => some mkdir
  | "touch" => some touch
  | "cp" => some (transfer "cp" false)
  | "mv" => some (transfer "mv" true)
  | "ln" => some ln
  | "ls" => some ls
  | "tee" => some tee
  | "yes" => some yes
  | "echo" => some echo
  | "printf" => some printf
  | "test" => some (test "test")
  | "[" => some (test "[")
  | "pwd" => some fun job => (Effect.none job).print (job.files.here.path ++ "\n")
  | "sleep" => some sleep
  | _ => none

end RecipePins.Shell.Tool
