import RecipePins.Text.CharClass
import RecipePins.Text.Digits

/-!
# Words

A word is made up of text, part of which may be quoted, and of pieces that stand for what they
expand to: the value of a parameter, the output of a command, or the value of an arithmetic
expression. The same pieces make up quoted texts, operands in braces, the lines of a here-document,
and arithmetic expressions; `Place` says which of these is being read, and so where it ends.
-/
namespace RecipePins.Shell

/-- What is made of the value of a parameter. A use of the operand that names `orEmpty` also applies
to an empty value. -/
inductive Treatment where
  | plain
  | length
  | default (orEmpty : Bool)
  | assign (orEmpty : Bool)
  | require (orEmpty : Bool)
  | alternative (orEmpty : Bool)
  | trim (atEnd longest : Bool)
  | malformed
  deriving DecidableEq, Repr

/-- Whether the operand is a pattern, which quotation marks around the parameter do not quote. -/
def Treatment.isTrim : Treatment → Bool
  | trim .. => true
  | _ => false

inductive Piece where
  | text (s : List Char) (quoted : Bool)
  | parameter (name : String) (treatment : Treatment) (operand : List Piece) (quoted : Bool)
  /-- The output of a script, of which the first line has a number. -/
  | command (line : Nat) (script : List Char) (quoted : Bool)
  | arithmetic (expression : List Piece) (quoted : Bool)
  deriving Repr

/-- The pieces of a word. A quoted word has at least one piece. -/
abbrev Word := List Piece

inductive ReadFault where
  | openQuote
  | openBrace
  | openCommand
  | openArithmetic
  | unexpected (found : String)
  | expected (found wanted : String)
  | badLoopName
  | badFunctionName
  deriving DecidableEq, Repr

def ReadFault.message : ReadFault → String
  | openQuote => "Unterminated quoted string"
  | openBrace => "Missing '\x7d'"
  | openCommand => "EOF in backquote substitution"
  | openArithmetic => "Missing '))'"
  | unexpected found => found ++ " unexpected"
  | expected found wanted => found ++ " unexpected (expecting " ++ wanted ++ ")"
  | badLoopName => "Bad for loop variable"
  | badFunctionName => "Bad function name"

inductive Place where
  | word
  | quotes
  | braces (quoted : Bool)
  | document
  | expression
  deriving DecidableEq, Repr

namespace Place

/-- Whether text at a place is protected from being split. -/
def isQuoted : Place → Bool
  | word => false
  | braces quoted => quoted
  | quotes | document | expression => true

/-- Whether a backslash at a place takes the meaning from a character. -/
def protects : Place → Char → Bool
  | word, _ | braces false, _ => true
  | quotes, c => ['$', '`', '"', '\\'].contains c
  | braces true, c => ['$', '`', '"', '\\', '\x7d'].contains c
  | document, c | expression, c => ['$', '`', '\\'].contains c

def quotes? : Place → Char → Bool
  | word, c | braces false, c => c == '\'' || c == '"'
  | braces true, c => c == '"'
  | _, _ => false

end Place

def endsWord (c : Char) : Bool :=
  Text.isGap c || [';', '&', '|', '<', '>', '(', ')', '\n'].contains c

def isIdentifierChar (c : Char) : Bool :=
  c.isAlphanum || c == '_'

def isIdentifier (s : List Char) : Bool :=
  match s with
  | c :: _ => !c.isDigit && s.all isIdentifierChar
  | [] => false

def keep (c : Char) (read : List Char × List Char) : List Char × List Char :=
  (c :: read.1, read.2)

def startsWithWord (word : String) (s : List Char) : Bool :=
  word.toList.isPrefixOf s && ((s.drop word.length).head?.map isIdentifierChar) != some true

/-- The script up to the parenthesis that closes it, and what follows that. For each open
parenthesis `levels` tells how many choices are open in it, whose patterns end in parentheses as
well. Within quotation marks and comments, of which `quote` is the end, nothing else counts; a word
may begin where `fresh` says so. -/
def closing? (quote : Option Char) (levels : List Nat) (fresh : Bool) :
    List Char → Option (List Char × List Char)
  | [] => none
  | [c] => if quote.isNone && c == ')' && levels == [0] then some ([], []) else none
  | c :: d :: r =>
    let next (quote : Option Char) (levels : List Nat) : Option (List Char × List Char) :=
      (closing? quote levels (endsWord c) (d :: r)).map (keep c)
    match quote with
    | some q =>
      if q = '"' && c == '\\' then (closing? quote levels false r).map (keep c ∘ keep d)
      else next (if c = q then none else quote) levels
    | none =>
      let levels :=
        if fresh && startsWithWord "case" (c :: d :: r) then
          (levels.headD 0 + 1) :: levels.tail
        else if fresh && startsWithWord "esac" (c :: d :: r) then
          (levels.headD 0 - 1) :: levels.tail
        else levels
      match c, levels with
      | '\\', levels => (closing? none levels false r).map (keep c ∘ keep d)
      | '\'', levels | '"', levels => next (some c) levels
      | '#', levels => next (if fresh then some '\n' else none) levels
      | '(', levels => next none (0 :: levels)
      | ')', [0] => some ([], d :: r)
      | ')', 0 :: levels => next none levels
      | _, levels => next none levels

/-- The expression up to the two parentheses that close it, and what follows them. -/
def arithmeticEnd? (depth : Nat) : List Char → Option (List Char × List Char)
  | [] => none
  | ')' :: ')' :: r =>
    match depth with
    | 0 => some ([], r)
    | depth + 1 => (arithmeticEnd? depth (')' :: r)).map (keep ')')
  | '(' :: r => (arithmeticEnd? (depth + 1) r).map (keep '(')
  | ')' :: r => (arithmeticEnd? (depth - 1) r).map (keep ')')
  | c :: r => (arithmeticEnd? depth r).map (keep c)

def backquoted? (quoted : Bool) : List Char → Option (List Char × List Char)
  | [] => none
  | '`' :: r => some ([], r)
  | [_] => none
  | c :: d :: r =>
    if c = '\\' then
      if ['$', '`', '\\'].contains d || (quoted && d == '"') then
        (backquoted? quoted r).map (keep d)
      else (backquoted? quoted r).map (keep c ∘ keep d)
    else (backquoted? quoted (d :: r)).map (keep c)

/-- The name of a parameter at the start of a text, and what follows it. In braces a number may have
several digits. -/
def parameterName? (inBraces : Bool) (s : List Char) : Option (String × List Char) :=
  match s with
  | c :: r =>
    if ['@', '*', '#', '?', '$', '!', '-'].contains c then some (String.singleton c, r)
    else if c.isDigit then
      if inBraces then
        some (String.ofList (s.takeWhile Char.isDigit), s.dropWhile Char.isDigit)
      else some (String.singleton c, r)
    else
      let name := s.takeWhile isIdentifierChar
      if name.isEmpty then none else some (String.ofList name, s.dropWhile isIdentifierChar)
  | [] => none

/-- What the characters after the name of a parameter in braces make of its value, and what follows
them. Without any, the parameter ends there. -/
def treatment (s : List Char) : Treatment × List Char :=
  match s with
  | '\x7d' :: _ => (.plain, s)
  | ':' :: '-' :: r => (.default true, r)
  | ':' :: '=' :: r => (.assign true, r)
  | ':' :: '?' :: r => (.require true, r)
  | ':' :: '+' :: r => (.alternative true, r)
  | '-' :: r => (.default false, r)
  | '=' :: r => (.assign false, r)
  | '?' :: r => (.require false, r)
  | '+' :: r => (.alternative false, r)
  | '%' :: '%' :: r => (.trim true true, r)
  | '%' :: r => (.trim true false, r)
  | '#' :: '#' :: r => (.trim false true, r)
  | '#' :: r => (.trim false false, r)
  | _ => (.malformed, s)

def bracedParameter (s : List Char) : String × Treatment × List Char :=
  match s with
  | '#' :: '\x7d' :: _ => ("#", .plain, s.drop 1)
  | '#' :: r =>
    match parameterName? true r with
    | some (name, '\x7d' :: r') => (name, .length, '\x7d' :: r')
    | _ => let (t, r) := treatment r; ("#", t, r)
  | s =>
    match parameterName? true s with
    | some (name, r) => let (t, r) := treatment r; (name, t, r)
    | none => ("", .malformed, s)

def lineCount (s : List Char) : Nat :=
  s.count '\n'

/-- The number of lines that end between a place in a text and a later one, given what follows
each. -/
def linesBetween (s after : List Char) : Nat :=
  lineCount (s.take (s.length - after.length))

def withPiece (piece : Piece) (read : Word × List Char) : Word × List Char :=
  (piece :: read.1, read.2)

/-- A text as the shell writes it: a character that ends an operand does so only there. -/
def Place.ends (place : Place) (c : Char) : Bool :=
  match place with
  | word => endsWord c
  | quotes => c == '"'
  | braces _ => c == '\x7d'
  | document | expression => false

/-- Pieces in quotation marks. All parameters in quotation marks give as many fields as there are;
any other quoted text gives one, even if it is empty. -/
def quotedPieces (pieces : Word) : Word :=
  match pieces with
  | [.parameter "@" .plain _ _] => pieces
  | pieces => .text [] true :: pieces

mutual

/-- The pieces at the start of a text and what follows them. The character that ends the pieces is
passed over unless a word is read. Every step needs one of `fuel`. -/
def readPieces (fuel : Nat) (place : Place) (line : Nat) (s : List Char) :
    Except ReadFault (Word × List Char) :=
  match fuel, s with
  | 0, s => .ok ([], s)
  | _ + 1, [] =>
    match place with
    | .quotes => .error .openQuote
    | .braces _ => .error .openBrace
    | _ => .ok ([], [])
  | fuel + 1, c :: r =>
    if place.ends c then .ok ([], if place = .word then s else r)
    else if c = '\\' then
      match r with
      | '\n' :: r => readPieces fuel place (line + 1) r
      | d :: r =>
        let text := if place.protects d then [d] else [c, d]
        (readPieces fuel place line r).map (withPiece (.text text true))
      | [] => .ok ([.text [c] true], [])
    else if place.quotes? c && c == '\'' then
      let text := r.takeWhile (· != '\'')
      match r.drop text.length with
      | _ :: r =>
        (readPieces fuel place (line + lineCount text) r).map (withPiece (.text text true))
      | [] => .error .openQuote
    else if place.quotes? c then
      match readPieces fuel .quotes line r with
      | .ok (pieces, after) =>
        (readPieces fuel place (line + linesBetween r after) after).map fun read =>
          (quotedPieces pieces ++ read.1, read.2)
      | .error fault => .error fault
    else if c = '$' || c = '`' then
      match readExpansion fuel place.isQuoted line (c :: r) with
      | .ok (piece, after) =>
        (readPieces fuel place (line + linesBetween r after) after).map (withPiece piece)
      | .error fault => .error fault
    else
      (readPieces fuel place (line + lineCount [c]) r).map (withPiece (.text [c] place.isQuoted))

def readExpansion (fuel : Nat) (quoted : Bool) (line : Nat) (s : List Char) :
    Except ReadFault (Piece × List Char) :=
  match fuel, s with
  | fuel + 1, '$' :: '(' :: '(' :: r =>
    match arithmeticEnd? 0 r with
    | none => .error .openArithmetic
    | some (expression, r) =>
      (readPieces fuel .expression line expression).map fun read => (.arithmetic read.1 quoted, r)
  | _, '$' :: '(' :: r =>
    match closing? none [0] true r with
    | none => .error (.expected "end of file" "\")\"")
    | some (script, r) => .ok (.command line script quoted, r)
  | fuel + 1, '$' :: '\x7b' :: r =>
    let (name, treatment, r) := bracedParameter r
    (readPieces fuel (.braces (quoted && !treatment.isTrim)) line r).map fun (operand, r) =>
      (.parameter name treatment operand quoted, r)
  | _, '`' :: r =>
    match backquoted? quoted r with
    | some (script, r) => .ok (.command line script quoted, r)
    | none => .error .openCommand
  | _, '$' :: r =>
    match parameterName? false r with
    | some (name, r) => .ok (.parameter name .plain [] quoted, r)
    | none => .ok (.text ['$'] quoted, r)
  | _, s => .ok (.text [] quoted, s)

end

def readWord (line : Nat) (s : List Char) : Except ReadFault (Word × List Char) :=
  readPieces (s.length + 1) .word line s

def piecesOf (place : Place) (line : Nat) (s : List Char) : Word :=
  match readPieces (s.length + 1) place line s with
  | .ok (pieces, _) => pieces
  | .error _ => [.text s true]

namespace Piece

/-- The text of a piece that expands to nothing else, with its quotation marks gone. -/
def text? : Piece → Option (List Char)
  | text s _ => some s
  | _ => none

def plain? : Piece → Option (List Char)
  | text s false => some s
  | _ => none

end Piece

/-- The text of a word in which nothing is quoted and nothing expands. -/
def plainText? (w : Word) : Option (List Char) :=
  (w.mapM Piece.plain?).map List.flatten

/-- The name and the value of a word that is an assignment. -/
def assignment? (w : Word) : Option (String × Word) :=
  let rec split (name : List Char) : Word → Option (String × Word)
    | .text ['='] false :: value =>
      if isIdentifier name.reverse then some (String.ofList name.reverse, value) else none
    | .text [c] false :: rest => if isIdentifierChar c then split (c :: name) rest else none
    | _ => none
  split [] w

end RecipePins.Shell
