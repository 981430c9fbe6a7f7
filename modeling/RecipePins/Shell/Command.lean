import RecipePins.Shell.Token

/-!
# Commands

What the tokens of a script make up: simple commands, the compound ones that are made of others, and
the redirections of either. `nextCommand` reads the commands of one line, or as many lines as they
take, so a fault further on in a script shows only after what stands before it has run.
-/
namespace RecipePins.Shell

inductive Redirect where
  | file (descriptor : Nat) (access : Access) (name : Word)
  | duplicate (descriptor : Nat) (source : Word)
  | document (descriptor : Nat) (body : Word)
  deriving Repr

inductive Command where
  | nothing
  | simple (line : Nat) (assignments : List (String × Word)) (words : List Word)
      (redirects : List Redirect)
  | redirected (line : Nat) (body : Command) (redirects : List Redirect)
  | subshell (line : Nat) (body : Command)
  | pipe (first second : Command)
  | negated (body : Command)
  | both (first second : Command)
  | either (first second : Command)
  | sequence (first second : Command)
  | background (body : Command)
  | branch (condition body otherwise : Command)
  /-- Runs the body as long as the condition ends as `wanted`. -/
  | loop (wanted : Bool) (condition body : Command)
  /-- Runs the body for every item, or for every parameter if no items are given. -/
  | each (line : Nat) (name : String) (items : Option (List Word)) (body : Command)
  | choose (line : Nat) (subject : Word) (arms : List (List Word × Command))
  | define (name : String) (body : Command)
  deriving Repr

namespace Command

def andThen : Command → Command → Command
  | nothing, c => c
  | c, nothing => c
  | c, d => sequence c d

def withRedirects (line : Nat) (c : Command) : List Redirect → Command
  | [] => c
  | redirects => redirected line c redirects

end Command

abbrev PlacedFault := Nat × ReadFault

abbrev TokenReader := StateT (List Placed) (Except PlacedFault)

/-- The words that have a meaning of their own where a command begins or goes on. -/
def reservedWords : List String :=
  ["!", "case", "do", "done", "elif", "else", "esac", "fi", "for", "if", "in", "then", "until",
    "while", "\x7b", "\x7d"]

def reserved? : Token → Option String
  | .word w => ((plainText? w).map String.ofList).filter reservedWords.contains
  | _ => none

/-- Whether a token ends a list of commands that stands within another command. -/
def endsList (t : Token) : Bool :=
  match t with
  | .closing | .caseEnd | .ending => true
  | t =>
    match reserved? t with
    | some w => ["do", "done", "elif", "else", "esac", "fi", "then", "\x7d"].contains w
    | none => false

namespace TokenReader

/-- The next token, which stays in front. -/
def peek : TokenReader Placed := do
  match ← get with
  | [] => pure ⟨0, .ending⟩
  | ⟨line, .fault f⟩ :: _ => throw (line, f)
  | t :: _ => pure t

/-- Passes over the next token, unless it is the last one. -/
def skip : TokenReader Unit :=
  modify fun
    | [t] => [t]
    | ts => ts.tail

def skipNewlines : TokenReader Unit :=
  modify fun ts => ts.dropWhile fun t => t.token matches .newline

/-- What a token is called in a fault, where reserved words count as such if `asReserved` says
so. -/
def nameOf (asReserved : Bool) (t : Token) : String :=
  match reserved? t with
  | some w => if asReserved then "\"" ++ w ++ "\"" else t.name
  | none => t.name

def unexpected {α : Type} (asReserved : Bool) (t : Placed) : TokenReader α :=
  throw (t.line, .unexpected (nameOf asReserved t.token))

/-- Passes over a reserved word, which has to be there. -/
def expectReserved (w : String) : TokenReader Unit := do
  let t ← peek
  if reserved? t.token = some w then skip
  else throw (t.line, .expected (nameOf true t.token) ("\"" ++ w ++ "\""))

def word : TokenReader Word := do
  let t ← peek
  match t.token with
  | .word w => skip; pure w
  | _ => unexpected false t

/-- The word that has to come next, where the fault says that a word is wanted. -/
def operand : TokenReader Word := do
  let t ← peek
  match t.token with
  | .word w => skip; pure w
  | token => throw (t.line, .expected (nameOf false token) "word")

/-- The redirections that come next; `fuel` bounds their number. -/
def redirects : Nat → TokenReader (List Redirect)
  | 0 => pure []
  | fuel + 1 => do
    match (← peek).token with
    | .file descriptor access => do
      skip
      let w ← word
      return .file descriptor access w :: (← redirects fuel)
    | .duplicate descriptor => do
      skip
      let w ← word
      return .duplicate descriptor w :: (← redirects fuel)
    | .document descriptor body => do
      skip
      return .document descriptor body :: (← redirects fuel)
    | _ => pure []

def words : Nat → TokenReader (List Word)
  | 0 => pure []
  | fuel + 1 => do
    match (← peek).token with
    | .word w => do
      skip
      return w :: (← words fuel)
    | _ => pure []

/-- The patterns of an arm of a choice, which a closing parenthesis ends. -/
def patterns : Nat → TokenReader (List Word)
  | 0 => pure []
  | fuel + 1 => do
    let w ← operand
    let t ← peek
    match t.token with
    | .pipe => do
      skip
      return w :: (← patterns fuel)
    | .closing => do
      skip
      pure [w]
    | token => throw (t.line, .expected (nameOf false token) "\")\"")

/-- The rest of a simple command. Assignments count only before the first word. -/
def simple (fuel : Nat) (line : Nat) (assignments : List (String × Word)) (ws : List Word)
    (rs : List Redirect) : TokenReader Command :=
  match fuel with
  | 0 => pure (.simple line assignments ws rs)
  | fuel + 1 => do
    match (← peek).token with
    | .word w => do
      skip
      match if ws.isEmpty then assignment? w else none with
      | some assignment => simple fuel line (assignments ++ [assignment]) ws rs
      | none => simple fuel line assignments (ws ++ [w]) rs
    | .file .. | .duplicate _ | .document .. => do
      simple fuel line assignments ws (rs ++ (← redirects 1))
    | _ => pure (.simple line assignments ws rs)

mutual

/-- The commands up to a token that ends the list. A list that `mayBeEmpty` says may have none. -/
def list (fuel : Nat) (mayBeEmpty : Bool) : TokenReader Command :=
  match fuel with
  | 0 => pure .nothing
  | fuel + 1 => do
    skipNewlines
    let t ← peek
    if t.token matches .ending then return .nothing
    if mayBeEmpty && endsList t.token then return .nothing
    let c ← andOr fuel
    match (← peek).token with
    | .semicolon | .newline => do
      skip
      return c.andThen (← list fuel true)
    | .ampersand => do
      skip
      return (Command.background c).andThen (← list fuel true)
    | _ => pure c

/-- Pipelines of which each runs or not depending on the one before it. -/
def andOr (fuel : Nat) : TokenReader Command :=
  match fuel with
  | 0 => pure .nothing
  | fuel + 1 => do
    let c ← pipeline fuel
    andOrAfter fuel c

def andOrAfter (fuel : Nat) (c : Command) : TokenReader Command :=
  match fuel with
  | 0 => pure c
  | fuel + 1 => do
    match (← peek).token with
    | .andIf => do
      skip
      skipNewlines
      let d ← pipeline fuel
      andOrAfter fuel (.both c d)
    | .orIf => do
      skip
      skipNewlines
      let d ← pipeline fuel
      andOrAfter fuel (.either c d)
    | _ => pure c

def pipeline (fuel : Nat) : TokenReader Command :=
  match fuel with
  | 0 => pure .nothing
  | fuel + 1 => do
    if reserved? (← peek).token = some "!" then
      skip
      return .negated (← pipeAfter fuel)
    else pipeAfter fuel

def pipeAfter (fuel : Nat) : TokenReader Command :=
  match fuel with
  | 0 => pure .nothing
  | fuel + 1 => do
    let c ← command fuel
    if (← peek).token matches .pipe then
      skip
      skipNewlines
      return .pipe c (← pipeAfter fuel)
    else pure c

def command (fuel : Nat) : TokenReader Command :=
  match fuel with
  | 0 => pure .nothing
  | fuel + 1 => do
    let t ← peek
    let compound (c : Command) : TokenReader Command := do
      return c.withRedirects t.line (← redirects fuel)
    match t.token, reserved? t.token with
    | .opening, _ => do
      skip
      let body ← list fuel false
      let close ← peek
      match close.token with
      | .closing => skip; compound (.subshell t.line body)
      | token => throw (close.line, .expected (nameOf true token) "\")\"")
    | _, some "\x7b" => do
      skip
      let body ← list fuel false
      expectReserved "\x7d"
      compound body
    | _, some "if" => do
      skip
      compound (← branch fuel)
    | _, some "while" => do
      skip
      compound (← loop fuel true)
    | _, some "until" => do
      skip
      compound (← loop fuel false)
    | _, some "for" => do
      skip
      compound (← each fuel t.line)
    | _, some "case" => do
      skip
      let subject ← operand
      skipNewlines
      expectReserved "in"
      compound (.choose t.line subject (← arms fuel))
    | .word w, none => do
      match ← get with
      | _ :: ⟨_, .opening⟩ :: _ =>
        if (assignment? w).isSome then simple fuel t.line [] [] [] else definition fuel w
      | _ => simple fuel t.line [] [] []
    | .file .., _ | .duplicate _, _ | .document .., _ => simple fuel t.line [] [] []
    | _, _ => unexpected true t

def definition (fuel : Nat) (name : Word) : TokenReader Command :=
  match fuel with
  | 0 => pure .nothing
  | fuel + 1 => do
    skip
    skip
    let t ← peek
    match t.token, plainText? name with
    | .closing, some name =>
      if isIdentifier name then
        skip
        skipNewlines
        return .define (String.ofList name) (← command fuel)
      else throw (t.line, .badFunctionName)
    | .closing, none => throw (t.line, .badFunctionName)
    | token, _ => throw (t.line, .expected (nameOf false token) "\")\"")

def branch (fuel : Nat) : TokenReader Command :=
  match fuel with
  | 0 => pure .nothing
  | fuel + 1 => do
    let condition ← list fuel false
    expectReserved "then"
    let body ← list fuel false
    match reserved? (← peek).token with
    | some "elif" => do
      skip
      return .branch condition body (← branch fuel)
    | some "else" => do
      skip
      let otherwise ← list fuel false
      expectReserved "fi"
      return .branch condition body otherwise
    | _ => do
      expectReserved "fi"
      return .branch condition body .nothing

def loop (fuel : Nat) (wanted : Bool) : TokenReader Command :=
  match fuel with
  | 0 => pure .nothing
  | fuel + 1 => do
    let condition ← list fuel false
    expectReserved "do"
    let body ← list fuel false
    expectReserved "done"
    return .loop wanted condition body

def each (fuel : Nat) (line : Nat) : TokenReader Command :=
  match fuel with
  | 0 => pure .nothing
  | fuel + 1 => do
    let t ← peek
    let name ← match t.token with
      | .word w =>
        match (plainText? w).filter isIdentifier with
        | some name => pure (String.ofList name)
        | none => throw (t.line, .badLoopName)
      | _ => throw (t.line, .badLoopName)
    skip
    skipNewlines
    let items ←
      if reserved? (← peek).token = some "in" then do
        skip
        let items ← words fuel
        let t ← peek
        match t.token with
        | .semicolon | .newline => skip; pure (some items)
        | _ => unexpected false t
      else do
        if (← peek).token matches .semicolon then skip
        pure none
    skipNewlines
    expectReserved "do"
    let body ← list fuel false
    expectReserved "done"
    return .each line name items body

/-- The arms of a choice, with the word that ends it. -/
def arms (fuel : Nat) : TokenReader (List (List Word × Command)) :=
  match fuel with
  | 0 => pure []
  | fuel + 1 => do
    skipNewlines
    if reserved? (← peek).token = some "esac" then
      skip
      pure []
    else do
      if (← peek).token matches .opening then skip
      let ps ← patterns fuel
      let body ← list fuel true
      skipNewlines
      let t ← peek
      if t.token matches .caseEnd then
        skip
        return (ps, body) :: (← arms fuel)
      else if reserved? t.token = some "esac" then
        skip
        pure [(ps, body)]
      else throw (t.line, .expected (nameOf true t.token) "\";;\"")

end

def line (fuel : Nat) : TokenReader Command :=
  match fuel with
  | 0 => pure .nothing
  | fuel + 1 => do
    match (← peek).token with
    | .newline => do
      skip
      pure .nothing
    | .ending => pure .nothing
    | _ => do
      let c ← andOr fuel
      let t ← peek
      match t.token with
      | .newline => do
        skip
        pure c
      | .ending => pure c
      | .semicolon => do
        skip
        return c.andThen (← line fuel)
      | .ampersand => do
        skip
        return (Command.background c).andThen (← line fuel)
      | _ => unexpected true t

end TokenReader

def readingSteps (ts : List Placed) : Nat :=
  8 * (ts.length + 1)

/-- The commands of the first lines of some tokens, with the tokens that follow them; none at the
end of a script. -/
def nextCommand (ts : List Placed) : Except PlacedFault (Option (Command × List Placed)) :=
  match ts with
  | [] | [⟨_, .ending⟩] => .ok none
  | ts => ((TokenReader.line (readingSteps ts)).run ts).map some

end RecipePins.Shell
