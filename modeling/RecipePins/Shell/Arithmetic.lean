import RecipePins.Shell.Word
import RecipePins.Text.Radix

/-!
# Arithmetic

Expressions over whole numbers of 64 bits, with the operators and precedences of C. Variables are
read from an environment; assignments are gathered and count for what is evaluated after them.
-/
namespace RecipePins.Shell

inductive ArithmeticFault where
  | noPrimary
  | noEnd
  | noClosing
  | noColon
  | divisionByZero
  | badNumber (text : String)
  deriving DecidableEq, Repr

def ArithmeticFault.message (expression : String) : ArithmeticFault → String
  | noPrimary => "arithmetic expression: expecting primary: \"" ++ expression ++ "\""
  | noEnd => "arithmetic expression: expecting EOF: \"" ++ expression ++ "\""
  | noClosing => "arithmetic expression: expecting ')': \"" ++ expression ++ "\""
  | noColon => "arithmetic expression: expecting ':': \"" ++ expression ++ "\""
  | divisionByZero => "arithmetic expression: division by zero: \"" ++ expression ++ "\""
  | badNumber text => "Illegal number: " ++ text

/-- A number with 64 bits, of which the first one is a sign. -/
def wrapped (n : Int) : Int :=
  n.bmod (Nat.pow 2 64)

def clamped (n : Int) : Int :=
  max (-Int.pow 2 63) (min (Int.pow 2 63 - 1) n)

/-- The number at the start of a text, in base 8 or 16 if it begins like one, and what follows
it. -/
def leadingNumber? (s : List Char) : Option (Nat × List Char) :=
  let run (base : Nat) (s : List Char) : Option (Nat × List Char) :=
    let digits := s.takeWhile fun c => (Text.digitIn? base c).isSome
    (Text.inBase? base digits).map fun n => (n, s.drop digits.length)
  match s with
  | '0' :: x :: r => if x = 'x' || x = 'X' then (run 16 r).or (some (0, x :: r)) else run 8 s
  | s => run 10 s

/-- The number that a text with blanks around it spells; the empty text is zero. -/
def wholeNumber? (s : List Char) : Option Int :=
  let s := s.dropWhile Text.isBlank
  if s.isEmpty then some 0
  else
    let (negative, digits) := match s with
      | '-' :: r => (true, r)
      | '+' :: r => (false, r)
      | s => (false, s)
    match leadingNumber? digits with
    | some (n, rest) =>
      if rest.all Text.isBlank then some (clamped (if negative then -n else n)) else none
    | none => none

inductive Sign where
  | number (n : Int)
  | named (name : String)
  | operator (text : String)
  deriving DecidableEq, Repr

/-- The operators, those that begin like others first. -/
def operators : List String :=
  ["<<=", ">>=", "<<", ">>", "<=", ">=", "==", "!=", "&&", "||", "*=", "/=", "%=", "+=", "-=", "&=",
    "^=", "|=", "=", "<", ">", "&", "|", "^", "*", "/", "%", "+", "-", "~", "!", "?", ":", "(", ")"]

/-- The parts of an expression; a character that fits nowhere is an operator that none has. -/
def signs (fuel : Nat) (s : List Char) : List Sign :=
  match fuel, s with
  | 0, _ | _, [] => []
  | fuel + 1, c :: r =>
    if Text.isBlank c then signs fuel r
    else if c.isDigit then
      match leadingNumber? (c :: r) with
      | some (n, rest) => .number (clamped n) :: signs fuel rest
      | none => [.operator ""]
    else if isIdentifierChar c then
      .named (String.ofList ((c :: r).takeWhile isIdentifierChar)) ::
        signs fuel (r.dropWhile isIdentifierChar)
    else
      match operators.find? fun o => o.toList.isPrefixOf (c :: r) with
      | some o => .operator o :: signs fuel ((c :: r).drop o.length)
      | none => [.operator ""]

inductive Expression where
  | number (n : Int)
  | named (name : String)
  | unary (operator : String) (e : Expression)
  | binary (operator : String) (a b : Expression)
  | conditional (condition a b : Expression)
  /-- Assigns what the operator makes of the old value and the expression, or the expression. -/
  | assign (name : String) (operator : Option String) (e : Expression)
  deriving Repr

/-- The binary operators, loosest first. -/
def levels : List (List String) :=
  [["||"], ["&&"], ["|"], ["^"], ["&"], ["==", "!="], ["<", "<=", ">", ">="], ["<<", ">>"],
    ["+", "-"], ["*", "/", "%"]]

/-- The operator with which an assignment combines the old value, if a part is an assignment. -/
def assignment : Sign → Option (Option String)
  | .operator "=" => some none
  | .operator o =>
    if ["==", "!=", "<=", ">="].contains o then none
    else match o.toList.reverse with
      | '=' :: rest => some (some (String.ofList rest.reverse))
      | _ => none
  | _ => none

/-- An expression at the start of some parts, and the parts that follow it. -/
abbrev ExpressionReading := Except ArithmeticFault (Expression × List Sign)

mutual

def readExpression (fuel : Nat) (s : List Sign) : ExpressionReading :=
  match fuel with
  | 0 => .error .noPrimary
  | fuel + 1 =>
    match s with
    | .named name :: sign :: r =>
      match assignment sign with
      | some operator => do
        let (e, r) ← readExpression fuel r
        pure (.assign name operator e, r)
      | none => readConditional fuel s
    | s => readConditional fuel s

def readConditional (fuel : Nat) (s : List Sign) : ExpressionReading :=
  match fuel with
  | 0 => .error .noPrimary
  | fuel + 1 => do
    let (condition, r) ← readBinary fuel levels s
    match r with
    | .operator "?" :: r =>
      let (a, r) ← readExpression fuel r
      match r with
      | .operator ":" :: r =>
        let (b, r) ← readConditional fuel r
        pure (.conditional condition a b, r)
      | _ => .error .noColon
    | r => pure (condition, r)

def readBinary (fuel : Nat) (levels : List (List String)) (s : List Sign) : ExpressionReading :=
  match fuel with
  | 0 => .error .noPrimary
  | fuel + 1 =>
    match levels with
    | [] => readUnary fuel s
    | level :: tighter => do
      let (a, r) ← readBinary fuel tighter s
      readOperands fuel level tighter a r

def readOperands (fuel : Nat) (level : List String) (tighter : List (List String))
    (a : Expression) (s : List Sign) : ExpressionReading :=
  match fuel, s with
  | 0, _ => .error .noPrimary
  | fuel + 1, .operator o :: r =>
    if level.contains o then do
      let (b, r) ← readBinary fuel tighter r
      readOperands fuel level tighter (.binary o a b) r
    else pure (a, .operator o :: r)
  | _ + 1, s => pure (a, s)

def readUnary (fuel : Nat) (s : List Sign) : ExpressionReading :=
  match fuel, s with
  | 0, _ => .error .noPrimary
  | _ + 1, .number n :: r => pure (.number n, r)
  | _ + 1, .named name :: r => pure (.named name, r)
  | fuel + 1, .operator "(" :: r => do
    let (e, r) ← readExpression fuel r
    match r with
    | .operator ")" :: r => pure (e, r)
    | _ => .error .noClosing
  | fuel + 1, .operator o :: r =>
    if ["+", "-", "!", "~"].contains o then do
      let (e, r) ← readUnary fuel r
      pure (.unary o e, r)
    else .error .noPrimary
  | _ + 1, [] => .error .noPrimary

end

def expressionOf (s : List Char) : Except ArithmeticFault Expression := do
  let parts := signs (s.length + 1) s
  match ← readExpression (16 * (parts.length + 1)) parts with
  | (e, []) => pure e
  | (_, _ :: _) => .error .noEnd

def truth (b : Bool) : Int :=
  if b then 1 else 0

def combine (operator : String) (a b : Int) : Except ArithmeticFault Int :=
  match operator with
  | "+" => pure (wrapped (a + b))
  | "-" => pure (wrapped (a - b))
  | "*" => pure (wrapped (a * b))
  | "/" => if b = 0 then .error .divisionByZero else pure (wrapped (a.tdiv b))
  | "%" => if b = 0 then .error .divisionByZero else pure (a.tmod b)
  | "<<" => pure (wrapped (a * Int.pow 2 (b.emod 64).toNat))
  | ">>" => pure (a.fdiv (Int.pow 2 (b.emod 64).toNat))
  | "<" => pure (truth (a < b))
  | "<=" => pure (truth (a ≤ b))
  | ">" => pure (truth (b < a))
  | ">=" => pure (truth (b ≤ a))
  | "==" => pure (truth (a = b))
  | "!=" => pure (truth (a ≠ b))
  | "&" => pure (BitVec.ofInt 64 a &&& BitVec.ofInt 64 b).toInt
  | "|" => pure (BitVec.ofInt 64 a ||| BitVec.ofInt 64 b).toInt
  | "^" => pure (BitVec.ofInt 64 a ^^^ BitVec.ofInt 64 b).toInt
  | _ => pure 0

/-- The assignments made so far, the latest first. -/
abbrev Assigned := List (String × Int)

/-- A computation that may assign variables or have no value. -/
abbrev Evaluation := StateT Assigned (Except ArithmeticFault)

/-- The value of a variable: what was assigned to it last, or else the number that its text
spells. -/
def valueOf (lookup : String → String) (name : String) : Evaluation Int := do
  match (← get).lookup name with
  | some n => pure n
  | none =>
    match wholeNumber? (lookup name).toList with
    | some n => pure n
    | none => throw (.badNumber (lookup name))

def Expression.value (lookup : String → String) : Expression → Evaluation Int
  | number n => pure n
  | named name => valueOf lookup name
  | unary operator e => do
    let n ← e.value lookup
    match operator with
    | "-" => pure (wrapped (-n))
    | "!" => pure (truth (n = 0))
    | "~" => pure (-n - 1)
    | _ => pure n
  | binary "&&" a b => do
    if (← a.value lookup) = 0 then pure 0 else return truth ((← b.value lookup) ≠ 0)
  | binary "||" a b => do
    if (← a.value lookup) ≠ 0 then pure 1 else return truth ((← b.value lookup) ≠ 0)
  | binary operator a b => do
    let m ← a.value lookup
    let n ← b.value lookup
    combine operator m n
  | conditional condition a b => do
    if (← condition.value lookup) ≠ 0 then a.value lookup else b.value lookup
  | assign name operator e => do
    let old ← match operator with
      | none => pure 0
      | some _ => valueOf lookup name
    let n ← e.value lookup
    let n ← match operator with
      | none => pure n
      | some operator => combine operator old n
    modify ((name, n) :: ·)
    pure n

def evaluateText (lookup : String → String) (s : List Char) :
    Except ArithmeticFault (Int × Assigned) := do
  let e ← expressionOf s
  (e.value lookup).run []

end RecipePins.Shell
