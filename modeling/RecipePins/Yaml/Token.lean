/-!
# Tokens of documents

The tokens between which the nested structure of a document is found: indicators, the starts and
ends of blocks that indentation implies, and the leaves.
-/
namespace RecipePins.Yaml

/-- The text of a tag as bytes, because escapes may spell bytes that are no text. -/
abbrev TagText := List UInt8

inductive Token where
  | version (major minor : Nat)
  | tagHandle (handle : List Char) (stem : TagText)
  | documentStart
  | documentEnd
  | blockSequence
  | blockMapping
  | blockEnd
  | openSequence
  | closeSequence
  | openMapping
  | closeMapping
  | item
  | comma
  | key
  | value
  | alias (name : List Char)
  | anchor (name : List Char)
  | tag (handle : List Char) (suffix : TagText)
  | scalar (plain : Bool) (text : List Char)
  deriving DecidableEq, Repr

end RecipePins.Yaml
