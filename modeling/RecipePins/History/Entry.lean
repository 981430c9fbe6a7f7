import RecipePins.Text.CharClass
import RecipePins.Text.Split
import RecipePins.History.Timestamp

/-!
# Entry lines of an annotated descriptor

Annotate output puts the columns of a commit before each line of a descriptor:

    815109b9a45 (<jane@example.com>  2022-11-08 20:49:32 +0100 26)   "1.3.5":

A line has a revision, perhaps a file name, and in parentheses an author, a timestamp and a line
number; the descriptor's own line follows. `Entry.ofLine` takes the version and the timestamp from
a line that introduces a version. As the author may be any text, the last place where a timestamp,
a line number and an entry follow is the one that counts.
-/
namespace RecipePins.History

/-- A version with the time at which its line was last changed. -/
structure Attribution where
  version : String
  timestamp : Timestamp
  deriving DecidableEq, Repr

/-- A history line or a listed version that takes no part in ranking. -/
inductive Problem where
  | unrecognised (line : String)
  | badTimestamp (line stamp : String)
  | unattributed (version : String)
  deriving DecidableEq, Repr

namespace Problem

def message : Problem → String
  | unrecognised line => s!"unrecognised annotate line: {line}"
  | badTimestamp line stamp => s!"bad timestamp `{stamp}` in annotate line: {line}"
  | unattributed version => s!"no history found for version `{version}`"

end Problem

namespace Entry

/-- The two quotation marks that may stand around a version. -/
def isQuote (c : Char) : Bool :=
  c == '"' || c == '\''

/-- The shape of a timestamp: `0` stands for a digit of any script and `+` for either sign. -/
def stampShape : List Char :=
  "0000-00-00 00:00:00 +0000".toList

def fitsShape (mark c : Char) : Bool :=
  if mark = '0' then Text.isDecimalDigit c
  else if mark = '+' then c == '+' || c == '-'
  else c == mark

def shaped? : List Char → List Char → Option (List Char × List Char)
  | [], s => some ([], s)
  | _ :: _, [] => none
  | m :: ms, c :: s =>
    if fitsShape m c then (shaped? ms s).map fun (stamp, rest) => (c :: stamp, rest) else none

def skipSome? (p : Char → Bool) : List Char → Option (List Char)
  | c :: s => if p c then some (s.dropWhile p) else none
  | [] => none

def skipChar? (c : Char) (s : List Char) : Option (List Char) :=
  match s with
  | d :: s => if d = c then some s else none
  | [] => none

def dropColon? (s : List Char) : Option (List Char) :=
  if s.getLast? = some ':' then some s.dropLast else none

def dropOpening : List Char → List Char
  | c :: s => if isQuote c then s else c :: s
  | [] => []

def dropClosing (s : List Char) : List Char :=
  match s.getLast? with
  | some c => if isQuote c then s.dropLast else s
  | none => s

/-- The version of an entry, which may be quoted and holds no quotation mark itself. -/
def unquoted? (s : List Char) : Option (List Char) :=
  let version := dropClosing (dropOpening s)
  if version.isEmpty || version.any isQuote then none else some version

/-- The version that stands between the closing parenthesis and the final colon, after at least
one space. If nothing or a lone quotation mark is left after the spaces, the last of several spaces
is itself the version. -/
def version? (s : List Char) : Option (List Char) := do
  let rest ← skipSome? (· == ' ') s
  let body ← dropColon? rest
  match unquoted? body with
  | some version => some version
  | none =>
    if s.take 2 == [' ', ' '] && (body.isEmpty || (body.length == 1 && body.all isQuote)) then
      some [' ']
    else none

/-- A timestamp, a line number, the closing parenthesis and an entry, after at least one blank. -/
def stamped? (s : List Char) : Option (List Char × List Char) := do
  let (stamp, s) ← shaped? stampShape (← skipSome? Text.isBlank s)
  let s ← skipSome? Text.isDecimalDigit (← skipSome? (· == ' ') s)
  let version ← version? (← skipChar? ')' s)
  some (stamp, version)

/-- The last place of the line at which `stamped?` succeeds. -/
def lastStamped? : List Char → Option (List Char × List Char)
  | [] => none
  | c :: s =>
    if c = '\n' then stamped? (c :: s)
    else (lastStamped? s).orElse fun _ => stamped? (c :: s)

/-- The timestamp and the version after an author of at least one character. -/
def authored? : List Char → Option (List Char × List Char)
  | [] => none
  | c :: s => if c = '\n' then none else lastStamped? s

/-- What follows the revision, which is a word that a caret may precede, and a space. -/
def afterRevision? (s : List Char) : Option (List Char) := do
  let word := match s with
    | '^' :: w => w
    | w => w
  skipChar? ' ' (← skipSome? Text.isWord word)

def afterFile? (s : List Char) : Option (List Char) := do
  skipChar? ' ' (← skipSome? (fun c => !Text.isBlank c) s)

def afterParen? (s : List Char) : Option (List Char) :=
  skipChar? '(' s

def columns? (line : List Char) : Option (List Char × List Char) := do
  let s ← afterRevision? line
  (do authored? (← afterParen? (← afterFile? s))).orElse fun _ => do authored? (← afterParen? s)

/-- The attribution that an entry line gives, or what is wrong with the line. -/
def ofLine (line : List Char) : Except Problem Attribution :=
  match columns? line with
  | none => .error (.unrecognised (String.ofList line))
  | some (stamp, version) =>
    match Timestamp.ofChars? stamp with
    | none => .error (.badTimestamp (String.ofList line) (String.ofList stamp))
    | some timestamp => .ok ⟨String.ofList version, timestamp⟩

end Entry

end RecipePins.History
