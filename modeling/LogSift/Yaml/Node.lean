import LogSift.Yaml.Tag
import LogSift.Yaml.Token
import LogSift.Yaml.Error

/-!
# Nodes

A document is a tree of nodes: scalars, lists and maps, each with its type. `Node.ofTokens` reads
the only document of a sequence of tokens; an alias stands for the node with its anchor.
-/

namespace LogSift.Yaml

/-- A node of a document. -/
inductive Node where
  | scalar (tag : Tag) (text : String)
  | list (tag : Tag) (items : List Node)
  | map (tag : Tag) (entries : List (Node × Node))
  /-- A list or a map inside itself. -/
  | enclosing (isMap : Bool)

namespace Node

/-- The scalar that is left out. -/
def absent : Node := .scalar .null ""

/-- The type of a node. -/
def tag : Node → Tag
  | .scalar tag _ => tag
  | .list tag _ => tag
  | .map tag _ => tag
  | .enclosing isMap => if isMap then .map else .list

end Node

/-- What stands before the content of a node. -/
structure Properties where
  anchor : Option String
  tag : Option String

namespace Properties

/-- Whether there are none. -/
def isEmpty (p : Properties) : Bool := p.anchor.isNone && p.tag.isNone

/-- Whether the content decides the type. -/
def isOpen (p : Properties) : Bool := p.tag.isNone || p.tag = some "!"

/-- The type of a scalar with these properties. -/
def scalarTag (p : Properties) (plain : Bool) (text : String) : Tag :=
  match p.tag with
  | none => if plain then .ofPlain text else .text
  | some name => if p.isOpen then .ofPlain text else .ofName name

/-- The type of a collection with these properties. -/
def collectionTag (p : Properties) (usual : Tag) : Tag :=
  match p.tag with
  | none => usual
  | some name => if p.isOpen then usual else .ofName name

end Properties

/-- The tokens that are left, what handles stand for and the nodes with anchors. -/
structure Outline where
  tokens : List Token
  handles : List (String × String)
  anchors : List (String × Node)

/-- A step that takes tokens. -/
abbrev Assembly := StateT Outline (Except Fault)

namespace Assembly

/-- Refuses the document. -/
def refuse {α : Type} : Assembly α := throw .malformed

/-- The next token. -/
def peek : Assembly (Option Token) := do return (← get).tokens.head?

/-- Leaves the next token behind. -/
def skip : Assembly Unit := modify fun s => { s with tokens := s.tokens.drop 1 }

/-- Takes a token if it comes next. -/
def accept (t : Token) : Assembly Bool := do
  if (← peek) = some t then
    skip
    return true
  else return false

/-- Takes a token, which has to come next. -/
def expect (t : Token) : Assembly Unit := do
  unless ← accept t do refuse

/-- Whether one of these tokens comes next. -/
def comes (ts : List Token) : Assembly Bool := do
  match ← peek with
  | some t => return ts.contains t
  | none => return false

/-! ## Properties -/

/-- Takes an anchor if one comes next. -/
def takeAnchor : Assembly (Option String) := do
  match ← peek with
  | some (.anchor name) =>
    skip
    return some name
  | _ => return none

/-- Takes a tag if one comes next, with its handle replaced. -/
def takeTag : Assembly (Option String) := do
  match ← peek with
  | some (.tag none text) =>
    skip
    return some text
  | some (.tag (some handle) text) =>
    skip
    match (← get).handles.lookup handle with
    | some stem => return some (stem ++ text)
    | none => refuse
  | _ => return none

/-- Takes an anchor and a tag, in any order. -/
def takeProperties : Assembly Properties := do
  match ← takeAnchor with
  | some name => return ⟨some name, ← takeTag⟩
  | none =>
    match ← takeTag with
    | some tag => return ⟨← takeAnchor, some tag⟩
    | none => return ⟨none, none⟩

/-- Gives a node to an anchor. -/
def define (anchor : Option String) (node : Node) : Assembly Unit :=
  match anchor with
  | none => return
  | some name => modify fun s => { s with anchors := (name, node) :: s.anchors }

/-- Refuses an anchor that has a node. -/
def checkAnchor (anchor : Option String) : Assembly Unit := do
  match anchor with
  | none => return
  | some name => if ((← get).anchors.lookup name).isSome then refuse

/-- The node that an alias stands for. -/
def resolve (name : String) : Assembly Node := do
  match (← get).anchors.lookup name with
  | some node => return node
  | none => refuse

/-- A scalar with its properties. -/
def scalar (p : Properties) (plain : Bool) (text : String) : Assembly Node := do
  let node : Node := .scalar (p.scalarTag plain text) text
  define p.anchor node
  return node

/-! ## Content -/

/-- Where a node stands. -/
inductive Setting where
  /-- The document or an item of a list of lines. -/
  | lines
  /-- A key or value of a map of lines. A list in it need not be indented. -/
  | member
  | brackets
  deriving DecidableEq

/-- The tokens before which an item is left out. -/
def afterItem : List Token := [.item, .linesEnd]

/-- The tokens before which a key or a value of a map of lines is left out. -/
def afterMember : List Token := [.key, .value, .linesEnd]

/-- Takes the content of a collection, inside which its anchor stands for the collection itself. -/
def collect (p : Properties) (isMap : Bool) (content : Assembly Node) : Assembly Node := do
  define p.anchor (.enclosing isMap)
  let node ← content
  define p.anchor node
  return node

/-- The list with these properties. -/
def list (p : Properties) (items : Assembly (List Node)) : Assembly Node :=
  collect p false do return .list (p.collectionTag .list) (← items)

/-- The map with these properties. -/
def map (p : Properties) (entries : Assembly (List (Node × Node))) : Assembly Node :=
  collect p true do return .map (p.collectionTag .map) (← entries)

/-- A node without content, which has to have properties. -/
def empty (p : Properties) : Assembly Node := if p.isEmpty then refuse else scalar p true ""

/-- Takes a node; it is absent if one of these tokens comes next. -/
def orAbsent (ts : List Token) (node : Assembly Node) : Assembly Node := do
  if ← comes ts then return .absent else node

mutual

/-- Takes a node. The first argument bounds the number of nodes and of signs. -/
def takeNode : Nat → Setting → Assembly Node
  | 0, _ => refuse
  | fuel + 1, setting => do
    if let some (.alias name) ← peek then
      skip
      return ← resolve name
    let p ← takeProperties
    checkAnchor p.anchor
    match ← peek, setting with
    | some (.scalar plain text), _ =>
      skip
      scalar p plain text
    | some .openList, _ =>
      skip
      list p (takeBracketItems fuel true)
    | some .openMap, _ =>
      skip
      map p (takeBracketEntries fuel true)
    | some .item, .member => list p (takeLooseItems fuel)
    | some .linesList, .lines | some .linesList, .member =>
      skip
      list p (takeItems fuel)
    | some .linesMap, .lines | some .linesMap, .member =>
      skip
      map p (takeEntries fuel)
    | _, _ => empty p

/-- Takes the items of a list of lines. -/
def takeItems : Nat → Assembly (List Node)
  | 0 => refuse
  | fuel + 1 => do
    if ← accept .item then
      let item ← orAbsent afterItem (takeNode fuel .lines)
      return item :: (← takeItems fuel)
    else if ← accept .linesEnd then return []
    else refuse

/-- Takes the items of a list that is not indented. -/
def takeLooseItems : Nat → Assembly (List Node)
  | 0 => refuse
  | fuel + 1 => do
    if ← accept .item then
      let item ← orAbsent (.item :: afterMember) (takeNode fuel .lines)
      return item :: (← takeLooseItems fuel)
    else return []

/-- Takes the entries of a map of lines. -/
def takeEntries : Nat → Assembly (List (Node × Node))
  | 0 => refuse
  | fuel + 1 => do
    if ← accept .key then
      let key ← orAbsent afterMember (takeNode fuel .member)
      let value ← if ← accept .value then orAbsent afterMember (takeNode fuel .member)
        else pure .absent
      return (key, value) :: (← takeEntries fuel)
    else if ← accept .linesEnd then return []
    else refuse

/-- Takes the items of a list in brackets. A key makes a map of one entry. -/
def takeBracketItems : Nat → Bool → Assembly (List Node)
  | 0, _ => refuse
  | fuel + 1, isFirst => do
    if ← accept .closeList then return []
    unless isFirst do expect .comma
    if ← accept .closeList then return []
    let item ← if ← accept .key then do
        let entry ← takePair fuel .closeList
        pure (Node.map .map [entry])
      else takeNode fuel .brackets
    return item :: (← takeBracketItems fuel false)

/-- Takes the entries of a map in brackets. -/
def takeBracketEntries : Nat → Bool → Assembly (List (Node × Node))
  | 0, _ => refuse
  | fuel + 1, isFirst => do
    if ← accept .closeMap then return []
    unless isFirst do expect .comma
    if ← accept .closeMap then return []
    let entry ← if ← accept .key then takePair fuel .closeMap
      else do
        let key ← takeNode fuel .brackets
        pure (key, .absent)
    return entry :: (← takeBracketEntries fuel false)

/-- Takes a key with its value inside brackets. -/
def takePair : Nat → Token → Assembly (Node × Node)
  | 0, _ => refuse
  | fuel + 1, closing => do
    let key ← orAbsent [.value, .comma, closing] (takeNode fuel .brackets)
    let value ← if ← accept .value then orAbsent [.comma, closing] (takeNode fuel .brackets)
      else pure .absent
    return (key, value)

end

/-! ## Documents -/

/-- Takes the directives before a document: the handles that they give, and whether there is
a version among them. -/
def takeDirectives (handles : List (String × String)) (hasVersion : Bool) :
    List Token → Except Fault (List (String × String) × List Token)
  | .directive (.version major _) :: rest =>
    if hasVersion || major ≠ 1 then .error .malformed else takeDirectives handles true rest
  | .directive (.tag handle stem) :: rest =>
    if (handles.lookup handle).isSome then .error .malformed
    else takeDirectives ((handle, stem) :: handles) hasVersion rest
  | .directive .reserved :: rest => takeDirectives handles hasVersion rest
  | tokens => .ok (handles, tokens)

/-- The handles that need no directive. -/
def usualHandles : List (String × String) := [("!", "!"), ("!!", Tag.stem)]

/-- Whether a token stands between documents. -/
def isBetween : Token → Bool
  | .directive _ | .documentStart | .documentEnd => true
  | _ => false

/-- Reads the content of a document, after which nothing but ends of documents may follow. -/
def readContent (handles : List (String × String)) (tokens : List Token) : Except Fault Node := do
  let (node, s) ← (takeNode (3 * tokens.length + 4) .lines).run
    ⟨tokens, handles ++ usualHandles, []⟩
  if s.tokens.all (· = .documentEnd) then return node else throw .malformed

/-- Reads a document after its start. The content may be left out. -/
def readStarted (handles : List (String × String)) (tokens : List Token) : Except Fault Node :=
  if tokens.head?.all isBetween then
    if tokens.all (· = .documentEnd) then .ok .absent else .error .malformed
  else readContent handles tokens

end Assembly

open Assembly

/-- Reads the only document. There is none in an empty text. -/
def Node.ofTokens (tokens : List Token) : Except Fault (Option Node) :=
  match tokens with
  | [] => .ok none
  | .directive _ :: _ | .documentStart :: _ => do
    let (handles, rest) ← takeDirectives [] false tokens
    match rest with
    | .documentStart :: rest => return some (← readStarted handles rest)
    | _ => throw .malformed
  | _ => (readContent [] tokens).map some

end LogSift.Yaml
