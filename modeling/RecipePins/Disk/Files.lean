import Std.Data.ExtTreeMap
import RecipePins.Disk.Path

/-!
# Files

A tree of files, directories and links, seen from a current directory. A path is followed part by
part: through directories, up at `..`, and on along links. Reading and writing concern the file to
which a path leads in the end.
-/
namespace RecipePins.Disk

inductive Fault where
  | missing
  | denied
  | notDirectory
  | isDirectory
  | nameTooLong
  | linkLoop
  | badFormat
  | zeroByte
  | notText
  deriving DecidableEq, Repr

def Fault.message : Fault → String
  | missing => "No such file or directory (os error 2)"
  | denied => "Permission denied (os error 13)"
  | notDirectory => "Not a directory (os error 20)"
  | isDirectory => "Is a directory (os error 21)"
  | nameTooLong => "File name too long (os error 36)"
  | linkLoop => "Too many levels of symbolic links (os error 40)"
  | badFormat => "Exec format error (os error 8)"
  | zeroByte => "file name contained an unexpected NUL byte"
  | notText => "stream did not contain valid UTF-8"

/-- A place in a tree: the names on the way from the root. -/
abbrev Location := List String

def Location.path (l : Location) : String :=
  "/" ++ "/".intercalate l

inductive Node where
  | directory
  | file (content : ByteArray) (executable : Bool)
  | link (target : String)

/-- A tree of files with its current directory. The root needs no entry, and writing to the files at the
locations `readOnly` is denied. -/
structure Files where
  nodes : Std.ExtTreeMap Location Node := ∅
  here : Location := []
  readOnly : List Location := []

namespace Files

def node? (files : Files) (l : Location) : Option Node :=
  if l.isEmpty then some .directory else files.nodes[l]?

def hasDirectory (files : Files) (l : Location) : Bool :=
  match files.node? l with
  | some .directory => true
  | _ => false

/-- The names that a path spells, with empty ones where slashes meet or end it. -/
def names (path : String) : List String :=
  (Text.fields '/' path.toList).map String.ofList

def start (base : Location) (path : String) : Location :=
  if isAbsolute path then [] else base

def maxName : Nat := 255

/-- The number of bytes that no path reaches. -/
def pathLimit : Nat := 4096

/-- Follows names from a location, with at most `links` links on the way. -/
def follow (files : Files) (links : Nat) (here : Location) (rest : List String) :
    Except Fault Location :=
  match rest with
  | [] => .ok here
  | name :: rest =>
    if !files.hasDirectory here then .error .notDirectory
    else if name = "" || name = "." then files.follow links here rest
    else if name = ".." then files.follow links here.dropLast rest
    else if maxName < name.utf8ByteSize then .error .nameTooLong
    else
      match files.node? (here ++ [name]) with
      | none => .error .missing
      | some (.link target) =>
        match links with
        | 0 => .error .linkLoop
        | links + 1 => files.follow links (start here target) (names target ++ rest)
      | some _ => files.follow links (here ++ [name]) rest
termination_by (links, rest.length)

def maxLinks : Nat := 40

/-- The location to which a path leads; the empty path leads nowhere. -/
def locate (files : Files) (path : String) : Except Fault Location :=
  if path.toList.contains '\x00' then .error .zeroByte
  else if path.isEmpty then .error .missing
  else if pathLimit ≤ path.utf8ByteSize then .error .nameTooLong
  else files.follow maxLinks (start files.here path) (names path)

def lookup (files : Files) (path : String) : Option Node :=
  match files.locate path with
  | .ok l => files.node? l
  | .error _ => none

def isPresent (files : Files) (path : String) : Bool :=
  (files.lookup path).isSome

def isFile (files : Files) (path : String) : Bool :=
  match files.lookup path with
  | some (.file ..) => true
  | _ => false

def isDirectory (files : Files) (path : String) : Bool :=
  match files.lookup path with
  | some .directory => true
  | _ => false

def isExecutable (files : Files) (path : String) : Bool :=
  match files.lookup path with
  | some (.file _ executable) => executable
  | _ => false

/-- The absolute path without links and detours to the same place, if a path leads anywhere. -/
def canonical? (files : Files) (path : String) : Option String :=
  (files.locate path).toOption.map Location.path

def read (files : Files) (path : String) : Except Fault ByteArray :=
  match files.locate path with
  | .error fault => .error fault
  | .ok l =>
    match files.node? l with
    | some (.file content _) => .ok content
    | some .directory => .error .isDirectory
    | _ => .error .missing

def readText (files : Files) (path : String) : Except Fault String :=
  match files.read path with
  | .error fault => .error fault
  | .ok content =>
    match String.fromUTF8? content with
    | some text => .ok text
    | none => .error .notText

/-- The files after another content is written to the file to which a path leads. -/
def write (files : Files) (path : String) (content : ByteArray) : Except Fault Files :=
  match files.locate path with
  | .error fault => .error fault
  | .ok l =>
    match files.node? l with
    | some (.file _ executable) =>
      if l ∈ files.readOnly then .error .denied
      else .ok { files with nodes := files.nodes.insert l (.file content executable) }
    | some .directory => .error .isDirectory
    | _ => .error .missing

def enter (files : Files) (path : String) : Except Fault Files :=
  match files.locate path with
  | .error fault => .error fault
  | .ok l => if files.hasDirectory l then .ok { files with here := l } else .error .notDirectory

/-- The files with something put at a location whose directory exists. -/
def put (files : Files) (l : Location) (node : Node) : Files :=
  { files with nodes := files.nodes.insert l node }

/-- The files with the directories that lead from a location along some names, and where they lead.
Directories that are there already, also behind links, stay as they are. -/
def makeDirectories (files : Files) (base : Location) : List String → Files × Location
  | [] => (files, base)
  | name :: rest =>
    match files.follow maxLinks base [name] with
    | .ok l => files.makeDirectories l rest
    | .error _ => (files.put (base ++ [name]) .directory).makeDirectories (base ++ [name]) rest

/-- The files with something put where an absolute path leads, in directories that are made if need
be. -/
def create (files : Files) (path : String) (node : Node) : Files :=
  let names := (names path).filter (!·.isEmpty)
  match names.getLast? with
  | none => files
  | some name =>
    let (files, l) := files.makeDirectories [] names.dropLast
    files.put (l ++ [name]) node

def createDirectory (files : Files) (path : String) : Files :=
  (files.makeDirectories [] ((names path).filter (!·.isEmpty))).1

end Files

end RecipePins.Disk
