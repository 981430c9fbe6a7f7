import RecipePins.Text.Split

/-!
# Paths

A path is a text whose parts are separated by slashes. Taking a path apart passes over empty parts
and over `.`, except for a `.` at the very start; what is not taken apart keeps its spelling.
-/
namespace RecipePins.Disk

def isAbsolute (path : String) : Bool :=
  path.toList.head? == some '/'

/-- A path followed by another one: an absolute path stands for itself, and a slash is put between
the two unless the first one is empty or ends in a slash. -/
def join (base path : String) : String :=
  if isAbsolute path || base.isEmpty then path
  else if base.toList.getLast? = some '/' then base ++ path
  else base ++ "/" ++ path

def joinParts : List (List Char) → List Char
  | [] => []
  | [p] => p
  | p :: rest => p ++ '/' :: joinParts rest

/-- The parts of a path without those at the end that name nothing; the first part is kept. -/
def trimParts : List (List Char) → List (List Char)
  | [] => []
  | first :: rest =>
    first :: (rest.reverse.dropWhile fun p => p.isEmpty || p == ['.']).reverse

/-- The parts of a path up to the last one that names something. -/
def parts (path : String) : List (List Char) :=
  trimParts (Text.fields '/' path.toList)

def parent? (path : String) : Option String :=
  match parts path with
  | [] | [[]] => none
  | [_] => some ""
  | ps =>
    match trimParts ps.dropLast with
    | [[]] => some "/"
    | above => some (String.ofList (joinParts above))

/-- The last part of a path, unless it is the root or a directory relative to another. -/
def fileName? (path : String) : Option String :=
  match (parts path).getLast? with
  | none | some [] | some ['.'] | some ['.', '.'] => none
  | some name => some (String.ofList name)

/-- The directories above a path, nearest first, at most `n` of them. -/
def ancestorsUpTo : Nat → String → List String
  | 0, _ => []
  | n + 1, path =>
    match parent? path with
    | some above => above :: ancestorsUpTo n above
    | none => []

def ancestors (path : String) : List String :=
  ancestorsUpTo (path.length + 1) path

end RecipePins.Disk
