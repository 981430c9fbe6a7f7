import RecipePins.Pin.Token
import RecipePins.Pin.Exclusion

/-!
# Finding the pins of a recipe

A recipe is read from left to right. Where a token stands, reading goes on after its closing
quotation mark, whether or not the token is excluded; elsewhere it goes on after one character.
-/
namespace RecipePins

def isPinChar (c : Char) : Bool :=
  ('a' ≤ c && c ≤ 'z') || ('0' ≤ c && c ≤ '9') || c == '_' || c == '.' || c == '-'

def isPinQuote (c : Char) : Bool :=
  c == '"' || c == '\''

/-- The version, the closing quotation mark `quote`, and what follows it. -/
def closing? (quote : Char) (s : List Char) : Option (List Char × List Char) :=
  match s.dropWhile isPinChar with
  | c :: rest =>
    if c = quote ∧ s.takeWhile isPinChar ≠ [] then some (s.takeWhile isPinChar, rest) else none
  | [] => none

/-- The token that starts a text, and what follows it. -/
def token? : List Char → Option (Token × List Char)
  | [] => none
  | quote :: s =>
    if isPinQuote quote ∧ s.takeWhile isPinChar ≠ [] then
      match s.dropWhile isPinChar with
      | '/' :: afterSlash =>
        (closing? quote afterSlash).map fun (version, rest) =>
          (⟨quote, String.ofList (s.takeWhile isPinChar), String.ofList version⟩, rest)
      | _ => none
    else none

theorem length_closing? {quote : Char} {s version rest : List Char}
    (h : closing? quote s = some (version, rest)) : rest.length < s.length := by
  have hs := Text.length_dropWhile_le isPinChar s
  revert h
  rw [closing?]
  split
  · next c tail hd =>
    rw [hd, List.length_cons] at hs
    split
    · intro h
      obtain ⟨-, rfl⟩ := Prod.mk.inj (Option.some.inj h)
      omega
    · simp
  · simp

theorem length_token? {s rest : List Char} {t : Token} (h : token? s = some (t, rest)) :
    rest.length < s.length := by
  revert h
  cases s with
  | nil => simp [token?]
  | cons quote s =>
    have hs := Text.length_dropWhile_le isPinChar s
    rw [token?]
    split
    · split
      · next afterSlash hd =>
        rw [hd, List.length_cons] at hs
        intro h
        obtain ⟨⟨version, r⟩, hc, he⟩ := Option.map_eq_some_iff.1 h
        obtain ⟨-, rfl⟩ := Prod.mk.inj he
        have := length_closing? hc
        simp only [List.length_cons]
        omega
      · simp
    · simp

/-- Every token of a text that starts at byte `offset` of a recipe. -/
def pinsFrom (offset : Nat) (s : List Char) : List Pin :=
  match _h : token? s with
  | some (t, rest) => ⟨t, offset⟩ :: pinsFrom (offset + Text.byteLength t.chars) rest
  | none =>
    match s with
    | [] => []
    | c :: s => pinsFrom (offset + c.utf8Size) s
termination_by s.length
decreasing_by
  · exact length_token? _h
  · simp

/-- Every pin of a recipe that the policy does not take for a path, in order. -/
def scan (policy : Exclusion) (text : String) : List Pin :=
  (pinsFrom 0 text.toList).filter fun p => !policy.excludes p.token.name p.token.version

end RecipePins
