import RecipePins.Yaml.Token

/-!
# The structure of a document

A document is one node: a scalar, a sequence, a mapping, or an alias of a node with an anchor. The
functions here read nodes from tokens; each of them gives the tokens that follow. A place where a
node may be left out stands for an empty plain scalar.
-/
namespace RecipePins.Yaml

structure Properties where
  anchor : Option (List Char) := none
  tag : Option TagText := none
  deriving DecidableEq, Repr

inductive Node where
  | alias (name : List Char)
  | scalar (props : Properties) (plain : Bool) (text : List Char)
  | sequence (props : Properties) (items : List Node)
  | mapping (props : Properties) (entries : List (Node × Node))

namespace Node

def empty : Node :=
  scalar {} true []

end Node

abbrev Handles := List (List Char × TagText)

namespace Handles

def default : Handles :=
  [("!".toList, "!".toUTF8.toList), ("!!".toList, "tag:yaml.org,2002:".toUTF8.toList)]

/-- The tag that a handle and a suffix stand for; no handle means that the suffix is the tag. -/
def resolve? (handles : Handles) (handle : List Char) (suffix : TagText) : Option TagText :=
  if handle.isEmpty then some suffix else (handles.lookup handle).map (· ++ suffix)

end Handles

def takeAnchor : List Token → Option (List Char) × List Token
  | .anchor name :: ts => (some name, ts)
  | ts => (none, ts)

def takeTag? (handles : Handles) : List Token → Option (Option TagText × List Token)
  | .tag handle suffix :: ts => (handles.resolve? handle suffix).map fun tag => (some tag, ts)
  | ts => some (none, ts)

/-- An anchor and a tag in either order, both optional. -/
def takeProperties? (handles : Handles) (ts : List Token) : Option (Properties × List Token) :=
  match takeAnchor ts with
  | (some anchor, ts) => (takeTag? handles ts).map fun (tag, ts) => (⟨some anchor, tag⟩, ts)
  | (none, ts) =>
    (takeTag? handles ts).map fun (tag, ts) =>
      match tag with
      | some _ => let (anchor, ts) := takeAnchor ts; (⟨anchor, tag⟩, ts)
      | none => ({}, ts)

/-- Whether no node can start at some tokens, so that one is left out there. -/
def missesNode (ends : List Token) : List Token → Bool
  | t :: _ => ends.contains t
  | [] => false

mutual

/-- A node. Blocks are allowed if `block` holds, and a sequence that is not indented further than
its key if `flush` holds. -/
def node? (handles : Handles) (block flush : Bool) :
    Nat → List Token → Option (Node × List Token)
  | 0, _ => none
  | _ + 1, .alias name :: ts => some (.alias name, ts)
  | fuel + 1, ts =>
    match takeProperties? handles ts with
    | none => none
    | some (props, ts) =>
      match ts with
      | .item :: _ =>
        if flush then
          (flushItems? handles fuel ts).map fun (items, ts) => (.sequence props items, ts)
        else leftOut? props ts
      | .scalar plain text :: ts =>
        some (.scalar props plain text, ts)
      | .openSequence :: ts =>
        (flowItems? handles true fuel ts).map fun (items, ts) => (.sequence props items, ts)
      | .openMapping :: ts =>
        (flowEntries? handles true fuel ts).map fun (entries, ts) => (.mapping props entries, ts)
      | .blockSequence :: rest =>
        if block then
          (blockItems? handles fuel rest).map fun (items, ts) => (.sequence props items, ts)
        else leftOut? props ts
      | .blockMapping :: rest =>
        if block then
          (blockEntries? handles fuel rest).map fun (entries, ts) => (.mapping props entries, ts)
        else leftOut? props ts
      | ts => leftOut? props ts

def leftOut? (props : Properties) (ts : List Token) : Option (Node × List Token) :=
  if props.anchor.isSome || props.tag.isSome then
    some (.scalar props true [], ts)
  else none

/-- A node, or an empty one if a token follows before which nodes may be left out. -/
def nodeUnless? (handles : Handles) (block flush : Bool) (ends : List Token) :
    Nat → List Token → Option (Node × List Token)
  | 0, _ => none
  | fuel + 1, ts =>
    if missesNode ends ts then some (.empty, ts) else node? handles block flush fuel ts

def blockItems? (handles : Handles) : Nat → List Token → Option (List Node × List Token)
  | 0, _ => none
  | fuel + 1, ts =>
    match ts with
    | .item :: ts =>
      match nodeUnless? handles true false [.item, .blockEnd] fuel ts with
      | some (n, ts) => (blockItems? handles fuel ts).map fun (items, ts) => (n :: items, ts)
      | none => none
    | .blockEnd :: ts => some ([], ts)
    | _ => none

/-- The entries of a sequence that is not indented further than its key. -/
def flushItems? (handles : Handles) : Nat → List Token → Option (List Node × List Token)
  | 0, _ => none
  | fuel + 1, ts =>
    match ts with
    | .item :: ts =>
      match nodeUnless? handles true false [.item, .key, .value, .blockEnd] fuel ts with
      | some (n, ts) => (flushItems? handles fuel ts).map fun (items, ts) => (n :: items, ts)
      | none => none
    | ts => some ([], ts)

def blockEntries? (handles : Handles) :
    Nat → List Token → Option (List (Node × Node) × List Token)
  | 0, _ => none
  | fuel + 1, ts =>
    match ts with
    | .blockEnd :: ts => some ([], ts)
    | .key :: ts =>
      match nodeUnless? handles true true [.key, .value, .blockEnd] fuel ts with
      | some (k, ts) =>
        match blockValue? handles fuel ts with
        | some (v, ts) =>
          (blockEntries? handles fuel ts).map fun (entries, ts) => ((k, v) :: entries, ts)
        | none => none
      | none => none
    | _ => none

def blockValue? (handles : Handles) : Nat → List Token → Option (Node × List Token)
  | 0, _ => none
  | fuel + 1, ts =>
    match ts with
    | .value :: ts => nodeUnless? handles true true [.key, .value, .blockEnd] fuel ts
    | ts => some (.empty, ts)

/-- The entries of a sequence in brackets and its end; all but the first follow a comma. -/
def flowItems? (handles : Handles) (first : Bool) :
    Nat → List Token → Option (List Node × List Token)
  | 0, _ => none
  | fuel + 1, ts =>
    match ts with
    | .closeSequence :: ts => some ([], ts)
    | ts =>
      match if first then some ts else skipComma? ts with
      | none => none
      | some (.closeSequence :: ts) => some ([], ts)
      | some (.key :: ts) =>
        match flowPair? handles fuel ts with
        | some (n, ts) =>
          (flowItems? handles false fuel ts).map fun (items, ts) => (n :: items, ts)
        | none => none
      | some ts =>
        match node? handles false false fuel ts with
        | some (n, ts) =>
          (flowItems? handles false fuel ts).map fun (items, ts) => (n :: items, ts)
        | none => none

def skipComma? : List Token → Option (List Token)
  | .comma :: ts => some ts
  | _ => none

/-- A mapping of one entry that stands in brackets without braces. If its key is left out, the token
in its place is passed over. -/
def flowPair? (handles : Handles) : Nat → List Token → Option (Node × List Token)
  | 0, _ => none
  | fuel + 1, ts =>
    let key := if missesNode [.value, .comma, .closeSequence] ts then some (.empty, ts.tail)
      else node? handles false false fuel ts
    match key with
    | none => none
    | some (k, .value :: ts) =>
      (nodeUnless? handles false false [.comma, .closeSequence] fuel ts).map fun (v, ts) =>
        (.mapping {} [(k, v)], ts)
    | some (k, ts) => some (.mapping {} [(k, .empty)], ts)

def flowEntries? (handles : Handles) (first : Bool) :
    Nat → List Token → Option (List (Node × Node) × List Token)
  | 0, _ => none
  | fuel + 1, ts =>
    match ts with
    | .closeMapping :: ts => some ([], ts)
    | ts =>
      match if first then some ts else skipComma? ts with
      | none => none
      | some (.closeMapping :: ts) => some ([], ts)
      | some (.key :: ts) =>
        match nodeUnless? handles false false [.value, .comma, .closeMapping] fuel ts with
        | some (k, ts) =>
          match flowValue? handles fuel ts with
          | some (v, ts) =>
            (flowEntries? handles false fuel ts).map fun (entries, ts) => ((k, v) :: entries, ts)
          | none => none
        | none => none
      | some ts =>
        match node? handles false false fuel ts with
        | some (k, ts) =>
          (flowEntries? handles false fuel ts).map fun (entries, ts) =>
            ((k, .empty) :: entries, ts)
        | none => none

def flowValue? (handles : Handles) : Nat → List Token → Option (Node × List Token)
  | 0, _ => none
  | fuel + 1, ts =>
    match ts with
    | .value :: ts => nodeUnless? handles false false [.comma, .closeMapping] fuel ts
    | ts => some (.empty, ts)

end

def isDirective : Token → Bool
  | .version _ _ | .tagHandle _ _ => true
  | _ => false

/-- The handles that some directives define. A version must be 1.1 or 1.2 and stated once, and a
handle must be defined once. -/
def handles? (versions : Nat) (defined : Handles) : List Token → Option Handles
  | [] => some (defined ++ Handles.default)
  | .version major minor :: ts =>
    if versions = 0 && major = 1 && (minor = 1 || minor = 2) then handles? 1 defined ts else none
  | .tagHandle handle stem :: ts =>
    if (defined.lookup handle).isSome then none
    else handles? versions ((handle, stem) :: defined) ts
  | _ => none

def enough (ts : List Token) : Nat :=
  4 * ts.length + 8

/-- The node of the only document of some tokens; none if the tokens are empty. -/
def document? (ts : List Token) : Option (Option Node) :=
  match ts with
  | [] => some none
  | t :: _ =>
    let read (handles : Handles) (ts : List Token) : Option (Option Node) :=
      match node? handles true false (enough ts) ts with
      | some (n, rest) => if rest.all (· == .documentEnd) then some (some n) else none
      | none => none
    if isDirective t || t == .documentStart then
      match handles? 0 [] (ts.takeWhile isDirective), ts.dropWhile isDirective with
      | some handles, .documentStart :: ts =>
        if ts.all (· == .documentEnd) then some (some .empty) else read handles ts
      | _, _ => none
    else read Handles.default ts

end RecipePins.Yaml
