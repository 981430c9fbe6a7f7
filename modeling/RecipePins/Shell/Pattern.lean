import RecipePins.Text.CharClass

/-!
# Patterns

A pattern is matched against a whole text. Characters that are quoted stand for themselves; of the
others `*` stands for any text, `?` for any character, and brackets for one of a set.
-/
namespace RecipePins.Shell

structure Marked where
  char : Char
  active : Bool
  deriving DecidableEq, Repr

inductive Member where
  | range (first last : Char)
  | named (name : String)
  deriving DecidableEq, Repr

inductive Element where
  | char (c : Char)
  | one
  | several
  | set (complement : Bool) (members : List Member)
  deriving DecidableEq, Repr

def inClass (name : String) (c : Char) : Bool :=
  match name with
  | "alpha" => c.isAlpha
  | "digit" => c.isDigit
  | "alnum" => c.isAlphanum
  | "upper" => c.isUpper
  | "lower" => c.isLower
  | "space" => c == ' ' || (9 ≤ c.toNat && c.toNat ≤ 13)
  | "blank" => Text.isGap c
  | "punct" => 33 ≤ c.toNat && c.toNat < 127 && !c.isAlphanum
  | "xdigit" => c.isDigit || ('a' ≤ c && c ≤ 'f') || ('A' ≤ c && c ≤ 'F')
  | "cntrl" => c.toNat < 32 || c.toNat == 127
  | "print" => 32 ≤ c.toNat && c.toNat < 127
  | "graph" => 33 ≤ c.toNat && c.toNat < 127
  | _ => false

def Member.holds (c : Char) : Member → Bool
  | range first last => first ≤ c && c ≤ last
  | named name => inClass name c

def Element.accepts (c : Char) : Element → Bool
  | char d => c == d
  | one | several => true
  | set complement members => members.any (·.holds c) != complement

/-- The members of a set up to its closing bracket, which as the first member stands for itself, and
what follows the set. Every step needs one of `fuel`. -/
def members? (fuel : Nat) (first : Bool) (s : List Marked) : Option (List Member × List Marked) :=
  match fuel, s with
  | 0, _ | _, [] => none
  | fuel + 1, ⟨c, active⟩ :: r =>
    let more (m : Member) (r : List Marked) : Option (List Member × List Marked) :=
      (members? fuel false r).map fun (ms, rest) => (m :: ms, rest)
    let name := ((r.drop 1).takeWhile fun m => m.char.isAlpha).map Marked.char
    if c = ']' && active && !first then some ([], r)
    else
      match r, r.drop (name.length + 1) with
      | ⟨':', true⟩ :: _, ⟨':', true⟩ :: ⟨']', true⟩ :: r' =>
        if c = '[' && active then more (.named (String.ofList name)) r' else more (.range c c) r
      | ⟨'-', true⟩ :: ⟨d, closes⟩ :: r', _ =>
        if d = ']' && closes then more (.range c c) r else more (.range c d) r'
      | r, _ => more (.range c c) r

def set? (s : List Marked) : Option (Element × List Marked) :=
  match s with
  | ⟨'!', true⟩ :: r => (members? (r.length + 1) true r).map fun (ms, r) => (.set true ms, r)
  | s => (members? (s.length + 1) true s).map fun (ms, r) => (.set false ms, r)

def elements (fuel : Nat) (s : List Marked) : List Element :=
  match fuel, s with
  | 0, _ | _, [] => []
  | fuel + 1, ⟨c, active⟩ :: r =>
    if active && c == '*' then .several :: elements fuel r
    else if active && c == '?' then .one :: elements fuel r
    else if active && c == '[' then
      match set? r with
      | some (e, r) => e :: elements fuel r
      | none => .char c :: elements fuel r
    else .char c :: elements fuel r

def patternOf (s : List Marked) : List Element :=
  elements (s.length + 1) s

/-- Whether a pattern stands for more than one text. -/
def isOpen (pattern : List Element) : Bool :=
  pattern.any fun
    | .char _ => false
    | _ => true

def fits : List Element → List Char → Bool
  | [], s => s.isEmpty
  | .several :: pattern, s => (List.range (s.length + 1)).any fun n => fits pattern (s.drop n)
  | _ :: _, [] => false
  | e :: pattern, c :: s => e.accepts c && fits pattern s

/-- A text without the shortest or the longest part at one of its ends that a pattern matches. -/
def trimmed (atEnd longest : Bool) (pattern : List Element) (s : List Char) : List Char :=
  let sizes := List.range (s.length + 1)
  let sizes := if longest then sizes.reverse else sizes
  let part (n : Nat) : List Char := if atEnd then s.drop (s.length - n) else s.take n
  match sizes.find? fun n => fits pattern (part n) with
  | some n => if atEnd then s.take (s.length - n) else s.drop n
  | none => s

end RecipePins.Shell
