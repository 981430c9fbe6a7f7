import RecipePins.Disk.Files
import RecipePins.Shell.Arithmetic

/-!
# Conditions

The conditions that `test` decides about files, texts and numbers, with negation, conjunction and
disjunction. Operators are read as operands where nothing else makes sense.
-/
namespace RecipePins.Shell

def unaryTests : List String :=
  ["-b", "-c", "-d", "-e", "-f", "-g", "-h", "-k", "-L", "-n", "-O", "-G", "-p", "-r", "-S", "-s",
    "-t", "-u", "-w", "-x", "-z"]

def binaryTests : List String :=
  ["=", "!=", "<", ">", "-eq", "-ne", "-gt", "-ge", "-lt", "-le", "-nt", "-ot", "-ef"]

inductive ConditionFault where
  | noArgument (operator : String)
  | unexpected (operator : String)
  | noClosing
  | badNumber (text : String)
  deriving DecidableEq, Repr

def ConditionFault.message : ConditionFault → String
  | noArgument operator => operator ++ ": argument expected"
  | unexpected operator => operator ++ ": unexpected operator"
  | noClosing => "closing paren expected"
  | badNumber text => "Illegal number: " ++ text

def holdsOf (files : Disk.Files) (operator operand : String) : Bool :=
  match operator with
  | "-e" => files.isPresent operand
  | "-f" => files.isFile operand
  | "-d" => files.isDirectory operand
  | "-r" | "-w" | "-O" | "-G" => files.isPresent operand
  | "-x" => files.isExecutable operand || files.isDirectory operand
  | "-s" =>
    files.isDirectory operand || (files.read operand).toOption.any fun content => content.size > 0
  | "-h" | "-L" =>
    match (files.locate ((Disk.parent? operand).filter (· != "") |>.getD ".")) with
    | .ok l =>
      match files.node? (l ++ [(Disk.fileName? operand).getD ""]) with
      | some (.link _) => true
      | _ => false
    | .error _ => false
  | "-n" => !operand.isEmpty
  | "-z" => operand.isEmpty
  | _ => false

def numberOf (s : String) : Except ConditionFault Int :=
  let trimmed := Text.trim s.toList
  let digits := match trimmed with
    | '-' :: r | '+' :: r => r
    | r => r
  if Text.isDigitRun digits then
    let n : Int := Text.digitsValue digits
    pure (if trimmed.head? = some '-' then -n else n)
  else .error (.badNumber s)

def holdsBetween (files : Disk.Files) (a operator b : String) : Except ConditionFault Bool :=
  let compared (decide : Int → Int → Bool) : Except ConditionFault Bool := do
    return decide (← numberOf a) (← numberOf b)
  match operator with
  | "=" => pure (a == b)
  | "!=" => pure (a != b)
  | "<" => pure (a < b)
  | ">" => pure (b < a)
  | "-eq" => compared fun m n => m = n
  | "-ne" => compared fun m n => m ≠ n
  | "-gt" => compared fun m n => m > n
  | "-ge" => compared fun m n => m ≥ n
  | "-lt" => compared fun m n => m < n
  | "-le" => compared fun m n => m ≤ n
  | "-ef" =>
    match files.locate a, files.locate b with
    | .ok l, .ok m => pure (l == m)
    | _, _ => pure false
  | _ => pure false

/-- Whether the operator at the front is an operand instead: nothing follows it, or what follows is
an operator with two operands. -/
def isOperand (s : List String) : Bool :=
  match s with
  | _ :: b :: c :: _ => binaryTests.contains b && c != ")"
  | [_] => true
  | _ => false

mutual

/-- Decides a disjunction at the front of some texts, and gives the texts that follow it. -/
def decideAny (files : Disk.Files) (fuel : Nat) (s : List String) :
    Except ConditionFault (Bool × List String) :=
  match fuel with
  | 0 => pure (false, s)
  | fuel + 1 => do
    let (a, r) ← decideAll files fuel s
    match r with
    | "-o" :: r =>
      let (b, r) ← decideAny files fuel r
      pure (a || b, r)
    | r => pure (a, r)

def decideAll (files : Disk.Files) (fuel : Nat) (s : List String) :
    Except ConditionFault (Bool × List String) :=
  match fuel with
  | 0 => pure (false, s)
  | fuel + 1 => do
    let (a, r) ← decideOne files fuel s
    match r with
    | "-a" :: r =>
      let (b, r) ← decideAll files fuel r
      pure (a && b, r)
    | r => pure (a, r)

def decideOne (files : Disk.Files) (fuel : Nat) (s : List String) :
    Except ConditionFault (Bool × List String) :=
  match fuel, s with
  | 0, _ | _, [] => pure (false, s)
  | fuel + 1, "!" :: (b :: r) => do
    if isOperand s then decideOperand files s
    else
      let (holds, r) ← decideOne files fuel (b :: r)
      pure (!holds, r)
  | fuel + 1, "(" :: (b :: r) => do
    if b = ")" then pure (false, r)
    else
      let (holds, r) ← decideAny files fuel (b :: r)
      match r with
      | ")" :: r => pure (holds, r)
      | _ => .error .noClosing
  | _ + 1, a :: r =>
    if unaryTests.contains a && !isOperand s then
      match r with
      | b :: r => pure (holdsOf files a b, r)
      | [] => .error (.noArgument a)
    else decideOperand files s

def decideOperand (files : Disk.Files) (s : List String) :
    Except ConditionFault (Bool × List String) :=
  match s with
  | a :: operator :: r =>
    if binaryTests.contains operator then
      match r with
      | b :: r => do return (← holdsBetween files a operator b, r)
      | [] => .error (.noArgument operator)
    else pure (!a.isEmpty, operator :: r)
  | [a] => pure (!a.isEmpty, [])
  | [] => pure (false, [])

end

def decideTexts (files : Disk.Files) (s : List String) : Except ConditionFault Bool := do
  let (holds, rest) ← match s with
    | [a, operator, b] =>
      if binaryTests.contains operator then
        pure (← holdsBetween files a operator b, [])
      else decideAny files (4 * s.length + 4) s
    | s => decideAny files (4 * s.length + 4) s
  match rest with
  | _ :: _ => .error (.unexpected (s.getD (s.length - rest.length - 1) ""))
  | [] => pure holds

end RecipePins.Shell
