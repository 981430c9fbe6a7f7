import RecipePins.Text.Split

/-!
# Command-line arguments

A command line names one recipe and sets options, in any order. Every option may be set once; short
options may be clustered, and two hyphens end the options. The first thing wrong makes the command
line invalid, unless help or the version was asked for before it.
-/
namespace RecipePins.Cli

structure Options where
  recipe : Option String := none
  verbose : Bool := false
  plain : Bool := false
  dryRun : Bool := false
  catalog : Option String := none
  config : Option String := none
  deriving DecidableEq, Repr

/-- The options that have no value. -/
inductive Flag where
  | verbose
  | plain
  | dryRun
  deriving DecidableEq, Repr

/-- The options that have a value. -/
inductive Setting where
  | catalog
  | config
  deriving DecidableEq, Repr

inductive Switch where
  | flag (f : Flag)
  | setting (s : Setting)
  | help
  | version
  deriving DecidableEq, Repr

inductive Request where
  | update (recipe : String) (options : Options)
  | help
  | version
  | invalid
  deriving DecidableEq, Repr

def long? : String → Option Switch
  | "verbose" => some (.flag .verbose)
  | "no-color" => some (.flag .plain)
  | "dry-run" => some (.flag .dryRun)
  | "recipes-dir" => some (.setting .catalog)
  | "config" => some (.setting .config)
  | "help" => some .help
  | "version" => some .version
  | _ => none

def short? : Char → Option Switch
  | 'v' => some (.flag .verbose)
  | 'n' => some (.flag .dryRun)
  | 'h' => some .help
  | 'V' => some .version
  | _ => none

namespace Options

/-- The options with a flag set that was not set before. -/
def setFlag? (f : Flag) (o : Options) : Option Options :=
  match f with
  | .verbose => if o.verbose then none else some { o with verbose := true }
  | .plain => if o.plain then none else some { o with plain := true }
  | .dryRun => if o.dryRun then none else some { o with dryRun := true }

/-- The options with a value that was not given before; an empty value is none. -/
def setValue? (s : Setting) (value : String) (o : Options) : Option Options :=
  if value.isEmpty then none
  else match s with
    | .catalog => if o.catalog.isSome then none else some { o with catalog := some value }
    | .config => if o.config.isSome then none else some { o with config := some value }

/-- The options with the recipe, which is named once. -/
def setRecipe? (path : String) (o : Options) : Option Options :=
  if path.isEmpty || o.recipe.isSome then none else some { o with recipe := some path }

/-- What a complete command line asks for. The environment may give the catalog's directory that the
command line does not, but not an empty one. -/
def request (fromEnvironment : Option String) (o : Options) : Request :=
  match o.recipe, o.catalog, fromEnvironment with
  | some recipe, none, some dir =>
    match o.setValue? .catalog dir with
    | some o => .update recipe o
    | none => .invalid
  | some recipe, _, _ => .update recipe o
  | none, _, _ => .invalid

end Options

/-- The name and the value of a long option that is written with an equals sign. -/
def splitValue (s : List Char) : String × Option String :=
  let name := String.ofList (s.takeWhile (· != '='))
  match s.dropWhile (· != '=') with
  | _ :: value => (name, some (String.ofList value))
  | [] => (name, none)

/-- Whether an argument can be the value of the option before it: all can but further options. -/
def isValue (argument : String) : Bool :=
  argument.toList.head? != some '-' || argument == "-"

/-- The end of reading arguments before all were read. -/
inductive Stop where
  | help
  | version
  | invalid
  deriving DecidableEq, Repr

def Stop.request : Stop → Request
  | help => .help
  | version => .version
  | invalid => .invalid

def orInvalid : Option Options → Except Stop Options
  | some o => .ok o
  | none => .error .invalid

def readCluster (o : Options) : List Char → Except Stop Options
  | [] => .ok o
  | c :: rest =>
    match short? c with
    | some .help => .error .help
    | some .version => .error .version
    | some (.flag f) =>
      match o.setFlag? f with
      | some o => readCluster o rest
      | none => .error .invalid
    | some (.setting _) | none => .error .invalid

def readRecipes (o : Options) : List String → Except Stop Options
  | [] => .ok o
  | path :: rest =>
    match o.setRecipe? path with
    | some o => readRecipes o rest
    | none => .error .invalid

def readLong (o : Options) (switch : Option Switch) (rest : List String) :
    Except Stop (Options × List String) :=
  match switch, rest with
  | some .help, _ => .error .help
  | some .version, _ => .error .version
  | some (.flag f), rest => (orInvalid (o.setFlag? f)).map fun o => (o, rest)
  | some (.setting s), value :: rest =>
    if isValue value then (orInvalid (o.setValue? s value)).map fun o => (o, rest)
    else .error .invalid
  | some (.setting _), [] | none, _ => .error .invalid

def readOne (o : Options) (argument : String) (rest : List String) :
    Except Stop (Options × List String) :=
  match argument.toList with
  | '-' :: '-' :: s =>
    match splitValue s with
    | (name, none) => readLong o (long? name) rest
    | (name, some value) =>
      match long? name with
      | some (.setting s) => (orInvalid (o.setValue? s value)).map fun o => (o, rest)
      | _ => .error .invalid
  | '-' :: c :: s => (readCluster o (c :: s)).map fun o => (o, rest)
  | _ => (orInvalid (o.setRecipe? argument)).map fun o => (o, rest)

def readAll (o : Options) : List String → Except Stop Options
  | [] => .ok o
  | "--" :: rest => readRecipes o rest
  | argument :: rest =>
    match readOne o argument rest with
    | .error stop => .error stop
    | .ok (o, left) => if _h : left.length ≤ rest.length then readAll o left else .error .invalid
termination_by arguments => arguments.length

def readArguments (fromEnvironment : Option String) (arguments : List String) : Request :=
  match readAll {} arguments with
  | .ok o => o.request fromEnvironment
  | .error stop => stop.request

end RecipePins.Cli
