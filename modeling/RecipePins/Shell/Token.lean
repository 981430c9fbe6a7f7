import RecipePins.Shell.Word

/-!
# Tokens of scripts

A script is a sequence of words, operators and redirections. The text of a here-document follows the
line that asks for it; its token stands where it is asked for and holds the text already.
-/
namespace RecipePins.Shell

inductive Access where
  | read
  | write
  | append
  | readWrite
  deriving DecidableEq, Repr

inductive Token where
  | word (w : Word)
  | newline
  | semicolon
  | ampersand
  | andIf
  | orIf
  | pipe
  | opening
  | closing
  | caseEnd
  /-- A redirection of a descriptor to the file that the next word names. -/
  | file (descriptor : Nat) (access : Access)
  /-- A redirection of a descriptor to the one that the next word names. -/
  | duplicate (descriptor : Nat)
  /-- A redirection of a descriptor to a given text. -/
  | document (descriptor : Nat) (body : Word)
  | fault (f : ReadFault)
  /-- The end of the script. -/
  | ending
  deriving Repr

structure Placed where
  line : Nat
  token : Token
  deriving Repr

/-- A here-document whose text has not been reached yet. -/
structure Awaited where
  delimiter : List Char
  /-- Whether the text is taken as it stands. -/
  quoted : Bool
  /-- Whether tabs at the start of its lines are dropped. -/
  stripped : Bool
  deriving DecidableEq, Repr

/-- The lines of a here-document up to its delimiter, and what follows that line. -/
def documentLines (awaited : Awaited) : Nat → List Char → List Char × List Char
  | 0, s => ([], s)
  | fuel + 1, s =>
    let s := if awaited.stripped then s.dropWhile (· == '\t') else s
    let line := s.takeWhile (· != '\n')
    let rest := s.drop (line.length + 1)
    if s.isEmpty then ([], [])
    else if line = awaited.delimiter then ([], rest)
    else
      let (lines, rest) := documentLines awaited fuel rest
      (s.take (line.length + 1) ++ lines, rest)

def documents (line : Nat) : List Awaited → List Char → List Word × List Char
  | [], s => ([], s)
  | awaited :: more, s =>
    let (body, rest) := documentLines awaited (s.length + 1) s
    let pieces := if awaited.quoted then [.text body true] else piecesOf .document line body
    let (bodies, rest) := documents (line + linesBetween s rest) more rest
    (pieces :: bodies, rest)

def operator? (s : List Char) : Option (Token × Nat) :=
  match s with
  | '\n' :: _ => some (.newline, 1)
  | ';' :: ';' :: _ => some (.caseEnd, 2)
  | ';' :: _ => some (.semicolon, 1)
  | '&' :: '&' :: _ => some (.andIf, 2)
  | '&' :: _ => some (.ampersand, 1)
  | '|' :: '|' :: _ => some (.orIf, 2)
  | '|' :: _ => some (.pipe, 1)
  | '(' :: _ => some (.opening, 1)
  | ')' :: _ => some (.closing, 1)
  | _ => none

def redirection? (s : List Char) : Option (Token × Nat) :=
  let number := s.takeWhile Char.isDigit
  let descriptor (standard : Nat) : Nat :=
    if number.isEmpty then standard else Text.digitsValue number
  let found (token : Token) (n : Nat) : Option (Token × Nat) := some (token, number.length + n)
  match s.drop number.length with
  | '>' :: '>' :: _ => found (.file (descriptor 1) .append) 2
  | '>' :: '&' :: _ => found (.duplicate (descriptor 1)) 2
  | '>' :: '|' :: _ => found (.file (descriptor 1) .write) 2
  | '>' :: _ => found (.file (descriptor 1) .write) 1
  | '<' :: '>' :: _ => found (.file (descriptor 0) .readWrite) 2
  | '<' :: '&' :: _ => found (.duplicate (descriptor 0)) 2
  | '<' :: _ => found (.file (descriptor 0) .read) 1
  | _ => none

/-- The descriptor of a here-document that a text asks for, whether the document is stripped, and
the number of characters that the request takes. -/
def documentStart? (s : List Char) : Option (Nat × Bool × Nat) :=
  let number := s.takeWhile Char.isDigit
  let descriptor := if number.isEmpty then 0 else Text.digitsValue number
  match s.drop number.length with
  | '<' :: '<' :: '-' :: _ => some (descriptor, true, number.length + 3)
  | '<' :: '<' :: _ => some (descriptor, false, number.length + 2)
  | _ => none

def isQuoted (w : Word) : Bool :=
  w.any fun
    | .text _ quoted => quoted
    | _ => false

/-- The tokens of a text that begins on a line, and the texts of the here-documents that are awaited
when it begins. Every step needs one of `fuel`. -/
def readTokens (fuel : Nat) (line : Nat) (awaited : List Awaited) (s : List Char) :
    List Placed × List Word :=
  match fuel, s with
  | 0, _ | _ + 1, [] => ([⟨line, .ending⟩], (documents line awaited []).1)
  | fuel + 1, c :: r =>
    if Text.isGap c then readTokens fuel line awaited r
    else if c = '#' then readTokens fuel line awaited (r.dropWhile (· != '\n'))
    else if c = '\\' && r.head? = some '\n' then readTokens fuel (line + 1) awaited r.tail
    else if c = '\n' then
      let (bodies, rest) := documents (line + 1) awaited r
      let (tokens, _) := readTokens fuel (line + 1 + linesBetween r rest) [] rest
      (⟨line, .newline⟩ :: tokens, bodies)
    else if let some (descriptor, stripped, n) := documentStart? s then
      let gap := ((s.drop n).takeWhile Text.isGap).length
      match readWord line (s.drop (n + gap)) with
      | .error fault => ([⟨line, .fault fault⟩], [])
      | .ok (w, rest) =>
        let delimiter := (w.filterMap Piece.text?).flatten
        let (tokens, bodies) :=
          readTokens fuel line (awaited ++ [⟨delimiter, isQuoted w, stripped⟩]) rest
        (⟨line, .document descriptor (bodies.getD awaited.length [])⟩ :: tokens,
          bodies.take awaited.length)
    else if let some (token, n) := redirection? s then
      let (tokens, bodies) := readTokens fuel line awaited (s.drop n)
      (⟨line, token⟩ :: tokens, bodies)
    else if let some (token, n) := operator? s then
      let (tokens, bodies) := readTokens fuel line awaited (s.drop n)
      (⟨line, token⟩ :: tokens, bodies)
    else
      match readWord line s with
      | .error fault => ([⟨line + lineCount s, .fault fault⟩], [])
      | .ok (w, rest) =>
        let (tokens, bodies) := readTokens fuel (line + linesBetween s rest) awaited rest
        (⟨line, .word w⟩ :: tokens, bodies)

/-- The tokens of a script that begins on a line; the last one is its end or a fault. -/
def tokens (line : Nat) (script : List Char) : List Placed :=
  (readTokens (script.length + 1) line [] script).1

namespace Token

def name : Token → String
  | newline => "newline"
  | semicolon => "\";\""
  | ampersand => "\"&\""
  | andIf => "\"&&\""
  | orIf => "\"||\""
  | pipe => "\"|\""
  | opening => "\"(\""
  | closing => "\")\""
  | caseEnd => "\";;\""
  | file .. | duplicate _ | document .. => "redirection"
  | word _ | fault _ => "word"
  | ending => "end of file"

end Token

end RecipePins.Shell
