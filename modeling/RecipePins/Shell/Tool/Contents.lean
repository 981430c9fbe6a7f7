import RecipePins.Shell.Format
import RecipePins.Shell.Job
import RecipePins.Shell.Pattern

/-!
# Tools for contents

Tools that show, count, sort and change the bytes and lines of files or of standard input.
-/
namespace RecipePins.Shell.Tool

def cat (job : Job) : Effect :=
  let (_, operands) := flags job.arguments
  overSources job operands (fun operand fault e =>
    e.fail "cat" (shownName operand ++ ": " ++ faultText fault) 1)
    fun _ content e => e.write content

/-- The bytes of each line of a content, with the newline that ends it. -/
def byteLines (content : List UInt8) : List (List UInt8) :=
  let (lines, last) := content.foldr (fun b (lines, current) =>
    if b = 10 then (current :: lines, [10]) else (lines, b :: current)) ([], [])
  let all := last :: lines
  all.filter fun line => !line.isEmpty

/-- How much of a file is shown, from which end. -/
structure Extent where
  count : Nat := 10
  inBytes : Bool := false
  /-- Whether the count says where to begin, or how much to leave out. -/
  inverse : Bool := false

/-- An extent that an argument spells, where a sign may turn it around. -/
def extent? (inBytes : Bool) (turn : Char) (s : List Char) : Option Extent :=
  let digits := s.dropWhile fun c => c == '+' || c == '-'
  if Text.isDigitRun digits then
    some ⟨Text.digitsValue digits, inBytes, s.head? = some turn⟩
  else none

def extentOf (turn : Char) : Extent → List String → Option (Extent × List String)
  | e, [] => some (e, [])
  | e, s :: rest =>
    match s.toList, rest with
    | ['-', 'n'], count :: rest => (extent? false turn count.toList).bind (extentOf turn · rest)
    | ['-', 'c'], count :: rest => (extent? true turn count.toList).bind (extentOf turn · rest)
    | ['-', 'q'], rest => extentOf turn e rest
    | '-' :: 'n' :: count, rest => (extent? false turn count).bind (extentOf turn · rest)
    | '-' :: 'c' :: count, rest => (extent? true turn count).bind (extentOf turn · rest)
    | '-' :: c :: count, rest =>
      if c.isDigit then (extent? false turn (c :: count)).bind (extentOf turn · rest) else none
    | _, rest => some (e, s :: rest)

def firstPart (e : Extent) (content : ByteArray) : ByteArray :=
  if e.inBytes then
    content.extract 0 (if e.inverse then content.size - e.count else e.count)
  else
    let lines := byteLines content.toList
    let shown := lines.take (if e.inverse then lines.length - e.count else e.count)
    ⟨shown.flatten.toArray⟩

def lastPart (e : Extent) (content : ByteArray) : ByteArray :=
  if e.inBytes then
    content.extract (if e.inverse then e.count - 1 else content.size - e.count) content.size
  else
    let lines := byteLines content.toList
    let shown := lines.drop (if e.inverse then e.count - 1 else lines.length - e.count)
    ⟨shown.flatten.toArray⟩

/-- Shows a part of each file, under its name if there are several. -/
def showParts (tool : String) (turn : Char) (part : Extent → ByteArray → ByteArray) (job : Job) :
    Effect :=
  match extentOf turn {} job.arguments with
  | none => (Effect.none job).refuse tool "invalid option" 1
  | some (extent, operands) =>
    overSources job operands (fun operand fault e =>
      e.fail tool ("cannot open " ++ quotedName operand ++ " for reading: " ++ faultText fault) 1)
      fun operand content e =>
        let e := if operands.length < 2 then e
          else
            let name := if operand = "-" then "standard input" else operand
            let gap := if e.writes.any (·.1 == 1) then "\n" else ""
            e.print (gap ++ "==> " ++ name ++ " <==\n")
        e.write (part extent content)

def counts (content : ByteArray) : List Nat :=
  let isGap (b : UInt8) : Bool := b = 32 || (9 ≤ b && b ≤ 13)
  let (words, _) := content.toList.foldl (fun (n, inWord) b =>
    if isGap b then (n, false) else (if inWord then n else n + 1, true)) (0, false)
  [content.toList.count 10, words, content.size]

def wc (job : Job) : Effect :=
  let (letters, operands) := flags job.arguments
  let chosen (c : Char) : Bool := letters.isEmpty || letters.contains c
  let pick (ns : List Nat) : List Nat :=
    (['l', 'w', 'c'].zip ns).filterMap fun (c, n) =>
      if chosen c || (c = 'c' && letters.contains 'm') then some n else none
  let fromInput := operands.isEmpty
  let all := operands.filterMap fun o => (source job o).toOption.map counts
  let total := all.foldl (List.zipWith (· + ·)) [0, 0, 0]
  let width :=
    if (pick [0, 0, 0]).length = 1 && operands.length < 2 then 1
    else if fromInput && job.input.size > 0 then 7
    else (toString (total.getD 2 0)).length
  let line (ns : List Nat) (name : String) : String :=
    let cells := (pick ns).map fun n =>
      String.ofList (List.replicate (width - (toString n).length) ' ') ++ toString n
    " ".intercalate cells ++ (if name.isEmpty then "" else " " ++ name) ++ "\n"
  let e := overSources job operands (fun operand fault e =>
    e.fail "wc" (shownName operand ++ ": " ++ faultText fault) 1) fun operand content e =>
      e.print (line (counts content) (if fromInput then "" else operand))
  if operands.length < 2 then e else e.print (line total "total")

/-- The bytes that a set of `tr` names, in order; every step needs one of `fuel`. -/
def byteSet (fuel : Nat) (s : List Char) : List UInt8 :=
  match fuel, s with
  | 0, _ | _, [] => []
  | fuel + 1, '\\' :: r =>
    let (b, n) := escape r
    if n = 0 then
      match r with
      | c :: r => charBytes c ++ byteSet fuel r
      | [] => [b]
    else b :: byteSet fuel (r.drop n)
  | fuel + 1, '[' :: ':' :: r =>
    let name := r.takeWhile Char.isAlpha
    let members := (List.range 128).filter fun n => inClass (String.ofList name) (Char.ofNat n)
    members.map (·.toUInt8) ++ byteSet fuel (r.drop (name.length + 2))
  | fuel + 1, a :: '-' :: b :: r =>
    ((List.range' a.toNat (b.toNat + 1 - a.toNat)).map (·.toUInt8)) ++ byteSet fuel r
  | fuel + 1, c :: r => charBytes c ++ byteSet fuel r

/-- Bytes with each run of equal bytes of a set made one. -/
def squeezed (set : List UInt8) : List UInt8 → List UInt8
  | a :: b :: rest =>
    if a = b && set.contains a then squeezed set (b :: rest) else a :: squeezed set (b :: rest)
  | bs => bs

def tr (job : Job) : Effect :=
  let (letters, operands) := flags job.arguments
  let setAt (n : Nat) : List UInt8 :=
    let s := (operands.getD n "").toList
    byteSet (s.length + 1) s
  let named := setAt 0
  let first := if letters.contains 'c' || letters.contains 'C' then
      ((List.range 256).map (·.toUInt8)).filter fun b => !named.contains b
    else named
  let second := setAt 1
  let input := job.input.toList
  let e := { Effect.none job with readsInput := true }
  if operands.isEmpty then (Effect.none job).refuse "tr" "missing operand" 1
  else
    let output :=
      if letters.contains 'd' then
        let left := input.filter fun b => !first.contains b
        if letters.contains 's' then squeezed second left else left
      else if operands.length < 2 then squeezed first input
      else
        let replaced := input.map fun b =>
          match first.idxOf? b with
          | some n => second.getD n (second.getLastD b)
          | none => b
        if letters.contains 's' then squeezed second replaced else replaced
    e.write ⟨output.toArray⟩

def bytesLe : List UInt8 → List UInt8 → Bool
  | [], _ => true
  | _ :: _, [] => false
  | a :: s, b :: t => a < b || (a = b && bytesLe s t)

def lineNumber (line : List UInt8) : Int :=
  let s := (line.map fun b => Char.ofNat b.toNat).dropWhile Text.isBlank
  match s with
  | '-' :: r => -(Text.digitsValue (r.takeWhile Char.isDigit) : Int)
  | s => (Text.digitsValue (s.takeWhile Char.isDigit) : Int)

/-- The lines of all sources, each with a newline at its end. -/
def allLines (job : Job) (operands : List String) :
    Except (String × Disk.Fault) (List (List UInt8)) :=
  let operands := if operands.isEmpty then ["-"] else operands
  operands.foldlM (fun lines operand =>
    match source job operand with
    | .ok content =>
      .ok (lines ++ (byteLines content.toList).map fun l => l.filter (· != 10))
    | .error fault => .error (operand, fault)) []

def withoutRepeats : List (List UInt8) → List (List UInt8)
  | a :: b :: rest => if a = b then withoutRepeats (b :: rest) else a :: withoutRepeats (b :: rest)
  | lines => lines

def linesContent (lines : List (List UInt8)) : ByteArray :=
  ⟨(lines.flatMap (· ++ [10])).toArray⟩

def sort (job : Job) : Effect :=
  let (letters, operands) := flags job.arguments
  match allLines job operands with
  | .error (operand, fault) =>
    let text := "cannot read: " ++ shownName operand ++ ": " ++ faultText fault
    (Effect.none job).fail "sort" text 2
  | .ok lines =>
    let before (a b : List UInt8) : Bool :=
      if letters.contains 'n' && lineNumber a ≠ lineNumber b then lineNumber a < lineNumber b
      else bytesLe a b
    let before (a b : List UInt8) : Bool := if letters.contains 'r' then before b a else before a b
    let sorted := lines.mergeSort before
    let kept := if letters.contains 'u' then withoutRepeats sorted else sorted
    { Effect.none job with readsInput := operands.isEmpty }.write (linesContent kept)

def uniq (job : Job) : Effect :=
  let (_, operands) := flags job.arguments
  match allLines job (operands.take 1) with
  | .error (operand, fault) =>
    (Effect.none job).fail "uniq" (shownName operand ++ ": " ++ faultText fault) 1
  | .ok lines =>
    { Effect.none job with readsInput := operands.isEmpty }.write
      (linesContent (withoutRepeats lines))

def tee (job : Job) : Effect :=
  let (letters, operands) := flags job.arguments
  let e := { Effect.none job with readsInput := true }
  let e := operands.foldl (fun e operand =>
    match e.files.placeFor operand with
    | .error fault => e.fail "tee" (shownName operand ++ ": " ++ faultText fault) 1
    | .ok l =>
      let old := if letters.contains 'a' then e.files.content l else .empty
      { e with files := e.files.setContent l (old ++ job.input) }) e
  e.write job.input

end RecipePins.Shell.Tool
