import RecipePins.Resolve.Event

/-!
# The log

Events are shown as lines of a log, one for each event that is worth one at the level asked for.
Characters that could control a terminal are shown by their codes.
-/
namespace RecipePins.Update

inductive Level where
  | debug
  | info
  | warning
  deriving DecidableEq, Repr

/-- The word for a level, five characters wide. -/
def Level.word : Level → String
  | debug => "DEBUG"
  | info => " INFO"
  | warning => " WARN"

/-- The level and the wording of an event; lookups are not shown. -/
def logEntry? : Event → Option (Level × String)
  | .lookedUpVersions _ | .lookedUpHistory _ => none
  | .processing name => some (.info, s!"Processing {name}")
  | .rankedByNumber name count => some (.debug, s!"{name}: ranked {count} numeric versions")
  | .rankedByHistory name count excluded =>
    some (.debug, s!"{name}: ranked {count} versions by history, {excluded} excluded")
  | .skipped name problem => some (.warning, s!"{name}: {problem.message}")
  | .overrideGave name rule chosen => some (.debug, s!"{name}: override {rule.text} gives {chosen}")
  | .configIgnored path reason => some (.warning, s!"Failed to load config from {path}: {reason}")
  | .usingCatalog directory => some (.debug, s!"using recipes directory {directory}")
  | .running command => some (.debug, s!"running `{command}`")
  | .updating name declared chosen manner =>
    some (.info, s!"Updating {name} {declared} -> {chosen} ({manner})")
  | .leftUnchanged path => some (.info, s!"Dry run - {path} left unchanged")

def shownChar (c : Char) : List Char :=
  match c with
  | '\x1b' => "\\x1b".toList
  | '\x07' => "\\x07".toList
  | '\x08' => "\\x08".toList
  | '\x0c' => "\\x0c".toList
  | '\x7f' => "\\x7f".toList
  | c =>
    if 0x80 ≤ c.toNat && c.toNat ≤ 0x9F then
      '\\' :: 'u' :: '\x7b' :: Nat.toDigits 16 c.toNat ++ ['\x7d']
    else [c]

def logLine (level : Level) (message : String) : String :=
  level.word ++ " " ++ String.ofList (message.toList.flatMap shownChar) ++ "\n"

/-- The log of some events; lines of the lowest level only if it is to be verbose. -/
def log (verbose : Bool) (events : List Event) : String :=
  String.join <| (events.filterMap logEntry?).filterMap fun (level, message) =>
    if level = .debug && !verbose then none else some (logLine level message)

end RecipePins.Update
