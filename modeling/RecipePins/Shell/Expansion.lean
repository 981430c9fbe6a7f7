import RecipePins.Shell.Arithmetic
import RecipePins.Shell.Pattern
import RecipePins.Shell.State
import RecipePins.Text.Lossy

/-!
# Expansion of words

A word expands to the characters of its text and of the values it asks for. Values that are not
quoted are split into fields, and a field with an active pattern character stands for the paths that
match it. The output of a command is asked for by a function that is given, so expansion does not
depend on how commands run.
-/
namespace RecipePins.Shell

/-- How a character came into a word. -/
inductive Origin where
  | written
  | quoted
  | expanded
  deriving DecidableEq, Repr

/-- A part of an expanded word. -/
inductive Mark where
  | char (c : Char) (origin : Origin)
  /-- Something quoted, which makes a field stand even if it is empty. -/
  | present
  /-- The end of a field. -/
  | boundary
  deriving DecidableEq, Repr

namespace Mark

def ofText (origin : Origin) (s : List Char) : List Mark :=
  s.map (char · origin)

/-- The character of a mark; between fields a space stands. -/
def char? : Mark → Option Char
  | char c _ => some c
  | present => none
  | boundary => some ' '

def marked? : Mark → Option Marked
  | char c origin => some ⟨c, origin ≠ .quoted⟩
  | present => none
  | boundary => some ⟨' ', false⟩

end Mark

def joined (ms : List Mark) : List Char :=
  ms.filterMap Mark.char?

def pattern (ms : List Mark) : List Element :=
  patternOf (ms.filterMap Mark.marked?)

structure Splitting where
  /-- The finished fields, the last one first. -/
  finished : List (List Marked) := []
  /-- The characters of the current field, the last one first. -/
  current : List Marked := []
  /-- Whether the current field stands although it may be empty. -/
  stands : Bool := false
  /-- Whether blanks have just ended a field, so that one more separator belongs to its end. -/
  atBlanks : Bool := false

namespace Splitting

/-- The fields once the current one is finished, if it stands or is to stand. -/
def close (s : Splitting) (always blanks : Bool) : Splitting :=
  if s.stands || always then ⟨s.current.reverse :: s.finished, [], false, blanks⟩
  else { s with atBlanks := s.atBlanks && blanks }

def next (separators : List Char) (s : Splitting) : Mark → Splitting
  | .present => { s with stands := true, atBlanks := false }
  | .boundary => s.close false false
  | .char c origin =>
    if origin = .expanded && separators.contains c then
      if Text.isGap c || c == '\n' then s.close false true
      else if s.atBlanks then { s with atBlanks := false }
      else s.close true false
    else
      { s with
        current := ⟨c, origin ≠ .quoted⟩ :: s.current
        stands := true
        atBlanks := false }

def fields (separators : List Char) (ms : List Mark) : List (List Marked) :=
  ((ms.foldl (next separators) {}).close false false).finished.reverse

end Splitting

/-- The names in a directory that a pattern matches. Hidden names, among them those of the directory
itself and of the one above it, match only a pattern that begins with a dot. -/
def matchingNames (files : Disk.Files) (directory : Disk.Location) (p : List Element) :
    List String :=
  let names := files.entries directory
  let candidates :=
    if p.head? = some (.char '.') then "." :: ".." :: names
    else names.filter fun name => name.toList.head? != some '.'
  candidates.filter fun name => fits p name.toList

/-- The paths that a pattern matches, given the path that stands before it and the parts of the
pattern between slashes. -/
def matchingPaths (files : Disk.Files) (before : String) : List (List Marked) → List String
  | [] => [before]
  | part :: rest =>
    let plain := String.ofList (part.map Marked.char)
    let separator := if rest.isEmpty then "" else "/"
    let p := patternOf part
    if isOpen p then
      match files.locate (if before.isEmpty then "." else before) with
      | .ok l =>
        (matchingNames files l p).flatMap fun name =>
          let path := before ++ name
          if rest.isEmpty || files.isDirectory path then
            matchingPaths files (path ++ separator) rest
          else []
      | .error _ => []
    else
      let path := before ++ plain
      if rest.isEmpty && !plain.isEmpty && !files.isPresent path then []
      else matchingPaths files (path ++ separator) rest

def slashParts : List Marked → List (List Marked)
  | [] => [[]]
  | m :: rest =>
    if m.char = '/' then [] :: slashParts rest
    else match slashParts rest with
      | part :: parts => (m :: part) :: parts
      | [] => [[m]]

/-- The texts that a field stands for: the paths that it matches, in order, or else itself. -/
def pathsOf (files : Disk.Files) (field : List Marked) : List String :=
  let plain := String.ofList (field.map Marked.char)
  if isOpen (patternOf field) then
    match matchingPaths files "" (slashParts field) with
    | [] => [plain]
    | paths => paths.mergeSort
  else [plain]

/-- The values of all parameters, each in a field of its own. -/
def allParameters (origin : Origin) : List String → List Mark
  | [] => []
  | value :: rest =>
    let ms := Mark.ofText origin value.toList
    let ms := if origin = .quoted then .present :: ms else ms
    if rest.isEmpty then ms else ms ++ .boundary :: allParameters origin rest

/-- A way to run a script, of which the first line has a number, and to get what it writes. -/
abbrev Substitution := Nat → List Char → Run (List Char)

def valueMarks (st : State) (name value : String) (quoted : Bool) : List Mark :=
  let origin : Origin := if quoted then .quoted else .expanded
  if name = "@" || (name = "*" && !quoted) then allParameters origin st.parameters
  else Mark.ofText origin value.toList

def abortAt {α : Type} (name message : String) : Run α :=
  Run.abort (name ++ ": " ++ message) 2

def arithmeticValue (text : List Char) : Run Int := do
  let st ← get
  match evaluateText (fun name => (st.value? name).getD "") text with
  | .ok (n, assigned) =>
    for (name, value) in assigned.reverse do
      modify (·.setVariable name (toString value))
    pure n
  | .error fault => Run.abort (fault.message (String.ofList text)) 2

mutual

/-- The marks of a piece. Text that is not quoted gets the origin `plain`. -/
def expandPiece (run : Substitution) (plain : Origin) : Piece → Run (List Mark)
  | .text s quoted =>
    pure (if quoted then .present :: Mark.ofText .quoted s else Mark.ofText plain s)
  | .command line script quoted => do
    let output ← run line script
    pure (Mark.ofText (if quoted then .quoted else .expanded) output)
  | .arithmetic expression quoted => do
    let text := joined (← expandPieces run .quoted expression)
    let n ← arithmeticValue text
    pure (Mark.ofText (if quoted then .quoted else .expanded) (toString n).toList)
  | .parameter name treatment operand quoted => do
    let st ← get
    let value := st.value? name
    let lacks (orEmpty : Bool) : Bool := value.isNone || (orEmpty && value == some "")
    match treatment with
    | .plain =>
      if value.isNone && st.refusesUnset then
        abortAt name "parameter not set"
      else pure (valueMarks st name (value.getD "") quoted)
    | .length =>
      let size := if name = "@" || name = "*" then st.parameters.length
        else (value.getD "").utf8ByteSize
      pure (Mark.ofText (if quoted then .quoted else .expanded) (toString size).toList)
    | .default orEmpty =>
      if lacks orEmpty then expandPieces run .expanded operand
      else pure (valueMarks st name (value.getD "") quoted)
    | .alternative orEmpty =>
      if lacks orEmpty then pure [] else expandPieces run .expanded operand
    | .assign orEmpty =>
      if lacks orEmpty then
        let text := String.ofList (joined (← expandPieces run .expanded operand))
        if isIdentifier name.toList then
          modify (·.setVariable name text)
          pure (valueMarks st name text quoted)
        else abortAt name "bad variable name"
      else pure (valueMarks st name (value.getD "") quoted)
    | .require orEmpty =>
      if lacks orEmpty then
        let text := String.ofList (joined (← expandPieces run .expanded operand))
        abortAt name (if !operand.isEmpty then text
          else if orEmpty then "parameter not set or null" else "parameter not set")
      else pure (valueMarks st name (value.getD "") quoted)
    | .trim atEnd longest =>
      let p := pattern (← expandPieces run .written operand)
      pure (valueMarks st name
        (String.ofList (trimmed atEnd longest p (value.getD "").toList)) quoted)
    | .malformed => Run.abort "Bad substitution" 2

def expandPieces (run : Substitution) (plain : Origin) : List Piece → Run (List Mark)
  | [] => pure []
  | piece :: rest => do
    let ms ← expandPiece run plain piece
    return ms ++ (← expandPieces run plain rest)

end

def expandWord (run : Substitution) (w : Word) : Run (List String) := do
  let ms ← expandPieces run .written w
  let st ← get
  pure ((Splitting.fields st.separators ms).flatMap (pathsOf st.files))

/-- The text that a word expands to where there is exactly one. -/
def expandText (run : Substitution) (w : Word) : Run String := do
  return String.ofList (joined (← expandPieces run .written w))

def expandPattern (run : Substitution) (w : Word) : Run (List Element) := do
  return pattern (← expandPieces run .written w)

def expandWords (run : Substitution) (ws : List Word) : Run (List String) := do
  return (← ws.mapM (expandWord run)).flatten

end RecipePins.Shell
