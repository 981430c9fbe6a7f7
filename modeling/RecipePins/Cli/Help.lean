import RecipePins.Text.CharClass

/-!
# Help

The text that explains the command line. Each option stands in a row of its own, its name in a
column that is as wide as the longest name, and its meaning beside it. A meaning that does not fit
goes on in the next row, below its beginning.
-/
namespace RecipePins.Cli

def rowWidth : Nat := 100

/-- The options with their short names, if they have one, and their meanings, of which some depend on
what the environment says about the directory of the catalog. -/
def optionRows (fromEnvironment : Option String) : List (String × String × String) :=
  let catalog := fromEnvironment.getD ""
  [("-v", "--verbose", "Enable verbose output"),
    ("", "--no-color", "Disable colored output"),
    ("", "--recipes-dir <RECIPES_DIR>",
      s!"Directory holding one version descriptor per dependency [env: PINBUMP_RECIPES_DIR={catalog}]"),
    ("", "--config <CONFIG>", "Additional config file (takes precedence over all others)"),
    ("-n", "--dry-run", "Show what would change without writing the recipe"),
    ("-h", "--help", "Print help"),
    ("-V", "--version", "Print version")]

def spacedWords (s : List Char) : List (List Char) :=
  s.splitBy fun c d => c != ' ' || d == ' '

/-- Words in rows of at most some width, as far as no word is longer. `row` is what the current row
holds already. -/
def rows (width : Nat) (row : List Char) : List (List Char) → List (List Char)
  | [] => [Text.trimEnd row]
  | w :: ws =>
    if width < row.length + (Text.trimEnd w).length then
      Text.trimEnd row :: rows width w ws
    else rows width (row ++ w) ws

def optionText (nameWidth : Nat) (short name meaning : String) : List Char :=
  let shortPart := if short.isEmpty then "    " else short ++ ", "
  let left := nameWidth + 8
  let start := ("  " ++ shortPart ++ name).toList.rightpad left ' '
  let below := '\n' :: List.replicate left ' '
  start ++ below.intercalate (rows (rowWidth - left) [] (spacedWords meaning.toList)) ++ ['\n']

def helpText (fromEnvironment : Option String) : String :=
  let options := optionRows fromEnvironment
  let nameWidth := (options.map fun (_, name, _) => name.length).foldl max 0
  "Refresh pinned dependency versions inside build recipes\n\n" ++
    "Usage: pinbump [OPTIONS] <RECIPE>\n\n" ++
    "Arguments:\n  <RECIPE>  Recipe file to update in place\n\n" ++
    "Options:\n" ++
    String.ofList (options.flatMap fun (short, name, meaning) =>
      optionText nameWidth short name meaning)

end RecipePins.Cli
