import RecipePins.Catalog.Layout
import RecipePins.Programs.Command

/-!
# Annotated descriptors

The annotation of a descriptor tells for each of its lines who wrote it last and when. It is made by
a program that runs in the directory of the descriptor.
-/
namespace RecipePins.Catalog

inductive AnnotationError where
  | noProgram
  | badPath (path : String)
  | command (failure : Programs.Failure)
  deriving DecidableEq, Repr

def AnnotationError.message : AnnotationError → String
  | noProgram => "`git` not found in PATH"
  | badPath path => "invalid descriptor path " ++ path
  | command failure => failure.message

def Layout.annotationCommand (git : Option String) (layout : Layout) (name : String) :
    Except AnnotationError Programs.Command :=
  let path := layout.pathOf name
  match git, Disk.parent? path, Disk.fileName? path with
  | none, _, _ => .error .noProgram
  | some git, some dir, some file => .ok ⟨git, ["blame", "-e", file], some dir⟩
  | some _, _, _ => .error (.badPath path)

def Layout.annotate (launch : Programs.Launcher) (git : Option String) (layout : Layout)
    (name : String) : Except Unresolved String :=
  match layout.annotationCommand git name with
  | .error e => .error (.noHistory name e.message)
  | .ok command =>
    match command.runChecked launch with
    | .ok output => .ok (Text.lossy output.stdout)
    | .error failure => .error (.noHistory name (AnnotationError.command failure).message)

def Layout.source (files : Disk.Files) (launch : Programs.Launcher) (git : Option String)
    (layout : Layout) : Source where
  versions := layout.versions files
  annotate := layout.annotate launch git

/-- A launcher that starts no program: the annotation of a file is the content of the file of that
name with `.blame` added. -/
def savedAnnotation (files : Disk.Files) : Programs.Launcher := fun c =>
  match c.directory.elim (.ok files) files.enter with
  | .error fault => .error fault
  | .ok files =>
    let file := c.arguments.getLast?.getD ""
    match files.read (file ++ ".blame") with
    | .ok content => .ok { code := some 0, stdout := content }
    | .error _ => .ok { code := some 128, stderr := ("no saved annotation of " ++ file).toUTF8 }

end RecipePins.Catalog
