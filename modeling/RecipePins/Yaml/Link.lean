import RecipePins.Yaml.Node

/-!
# Aliases and what they stand for

An anchor gives its node a number: how many names have been given so far. The alias of a name stands
for the number that its name had at that place, and a number for the node that was given it last in
the whole document. So a name that is given again shares its number with the next new name, and an
alias may stand for a node that comes later or that encloses it.
-/
namespace RecipePins.Yaml

/-- A node whose aliases are numbers. -/
inductive Linked where
  | alias (number : Nat)
  | scalar (tag : Option TagText) (plain : Bool) (text : List Char)
  | sequence (tag : Option TagText) (items : List Linked)
  | mapping (tag : Option TagText) (entries : List (Linked × Linked))

/-- The anchors met so far: the numbers of names, the last node that was given each number, and the
nodes that are complete. Nodes are told apart by the order in which they start. -/
structure Anchors where
  numbers : List (List Char × Nat) := []
  holders : List (Nat × Nat) := []
  nodes : List (Nat × Linked) := []
  started : Nat := 0

namespace Anchors

def start (anchor : Option (List Char)) (a : Anchors) : Nat × Anchors :=
  let a' := { a with started := a.started + 1 }
  match anchor with
  | none => (a.started, a')
  | some name =>
    let number := a.numbers.length
    (a.started,
      { a' with
        numbers := (name, number) :: a.numbers.filter (·.1 != name)
        holders := (number, a.started) :: a.holders })

def finish (anchor : Option (List Char)) (which : Nat) (n : Linked) (a : Anchors) : Anchors :=
  if anchor.isSome then { a with nodes := (which, n) :: a.nodes } else a

def target? (a : Anchors) (number : Nat) : Option Linked :=
  (a.holders.lookup number).bind fun which => a.nodes.lookup which

end Anchors

mutual

/-- A node with its aliases as numbers, after the anchors met before it. An alias of a name that has
not been given is refused. -/
def link? : Node → Anchors → Option (Linked × Anchors)
  | .alias name, a => (a.numbers.lookup name).map fun number => (.alias number, a)
  | .scalar props plain text, a =>
    let (which, a) := a.start props.anchor
    let n := .scalar props.tag plain text
    some (n, a.finish props.anchor which n)
  | .sequence props items, a =>
    let (which, a) := a.start props.anchor
    (linkItems? items a).map fun (items, a) =>
      let n := .sequence props.tag items
      (n, a.finish props.anchor which n)
  | .mapping props entries, a =>
    let (which, a) := a.start props.anchor
    (linkEntries? entries a).map fun (entries, a) =>
      let n := .mapping props.tag entries
      (n, a.finish props.anchor which n)

def linkItems? : List Node → Anchors → Option (List Linked × Anchors)
  | [], a => some ([], a)
  | n :: rest, a =>
    match link? n a with
    | some (n, a) => (linkItems? rest a).map fun (rest, a) => (n :: rest, a)
    | none => none

def linkEntries? : List (Node × Node) → Anchors → Option (List (Linked × Linked) × Anchors)
  | [], a => some ([], a)
  | (k, v) :: rest, a =>
    match link? k a with
    | some (k, a) =>
      match link? v a with
      | some (v, a) => (linkEntries? rest a).map fun (rest, a) => ((k, v) :: rest, a)
      | none => none
    | none => none

end

mutual

/-- The number of marks that a node takes: one for a leaf and two for what encloses others. -/
def Node.weight : Node → Nat
  | .alias _ | .scalar _ _ _ => 1
  | .sequence _ items => itemsWeight items + 2
  | .mapping _ entries => entriesWeight entries + 2

def itemsWeight : List Node → Nat
  | [] => 0
  | n :: rest => n.weight + itemsWeight rest

def entriesWeight : List (Node × Node) → Nat
  | [] => 0
  | (k, v) :: rest => k.weight + v.weight + entriesWeight rest

end

end RecipePins.Yaml
