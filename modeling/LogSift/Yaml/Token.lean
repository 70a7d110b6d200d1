/-!
# Tokens of YAML documents

The tokens of a document. Where the layout of lines opens or closes a collection, there is a token
for it, and a token announces each key of a map, also where no sign in the text does.
-/

namespace LogSift.Yaml

/-- A line that says how the document is to be read. -/
inductive Directive where
  /-- The version of the notation. -/
  | version (major minor : Int)
  /-- What a handle stands for at the beginning of a tag. -/
  | tag (handle stem : String)
  /-- A directive without effect. -/
  | reserved
  deriving DecidableEq, Repr

/-- A token. -/
inductive Token where
  | directive (d : Directive)
  | documentStart
  | documentEnd
  /-- The first item of a list of lines follows. -/
  | linesList
  /-- The first key of a map of lines follows. -/
  | linesMap
  /-- A list or a map of lines ends. -/
  | linesEnd
  /-- The hyphen before an item. -/
  | item
  | openList
  | closeList
  | openMap
  | closeMap
  | comma
  /-- A key follows. -/
  | key
  /-- The value of a key follows. -/
  | value
  | alias (name : String)
  | anchor (name : String)
  /-- A tag; without a handle its text is the whole name. -/
  | tag (handle : Option String) (text : String)
  | scalar (plain : Bool) (text : String)
  deriving DecidableEq, Repr

end LogSift.Yaml
