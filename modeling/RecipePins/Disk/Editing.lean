import RecipePins.Disk.Files

/-!
# Changing a tree of files

What a directory holds, where a new file would stand, and the tree after something is put into it or
taken out of it.
-/
namespace RecipePins.Disk.Files

def entries (files : Files) (directory : Location) : List String :=
  files.nodes.keys.filterMap fun l =>
    if l.dropLast = directory && !l.isEmpty then l.getLast? else none

/-- Where the file to which a path leads stands, or would stand if it were made. -/
def placeFor (files : Files) (path : String) : Except Fault Location :=
  match files.locate path with
  | .ok l => .ok l
  | .error .missing =>
    let directory := (path.toList.reverse.dropWhile (· != '/')).reverse
    let name := String.ofList (path.toList.drop directory.length)
    if name.isEmpty then .error .missing
    else
      let above := if directory.isEmpty then "." else String.ofList directory
      match files.locate above with
      | .ok l => if files.hasDirectory l then .ok (l ++ [name]) else .error .notDirectory
      | .error fault => .error fault
  | .error fault => .error fault

def content (files : Files) (l : Location) : ByteArray :=
  match files.node? l with
  | some (.file content _) => content
  | _ => .empty

def setContent (files : Files) (l : Location) (content : ByteArray) : Files :=
  match files.node? l with
  | some (.file _ executable) => files.put l (.file content executable)
  | _ => files.put l (.file content false)

def remove (files : Files) (l : Location) : Files :=
  { files with nodes := files.nodes.filter fun m _ => !l.isPrefixOf m }

def entryOf (files : Files) (path : String) : Except Fault Location :=
  let trimmed := (path.toList.reverse.dropWhile (· == '/')).reverse
  let directory := (trimmed.reverse.dropWhile (· != '/')).reverse
  let name := String.ofList (trimmed.drop directory.length)
  let above := if directory.isEmpty then "." else String.ofList directory
  match files.locate above with
  | .error fault => .error fault
  | .ok l =>
    if name = "" || name = "." || name = ".." then files.locate path
    else if (files.node? (l ++ [name])).isSome then .ok (l ++ [name])
    else if files.hasDirectory l then .error .missing
    else .error .notDirectory

end RecipePins.Disk.Files
