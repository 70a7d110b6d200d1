import LogSift.Yaml.Text
import LogSift.Yaml.Token
import LogSift.Json.Reader
import LogSift.Text.Utf8

/-!
# Names, tags and directives

Reading the names of anchors, the tags of nodes and the directives before a document.
-/

namespace LogSift.Yaml

/-! ## Names -/

/-- Whether a text goes on as it may after the name of an anchor. -/
def endsName : List Char → Bool
  | [] => true
  | c :: rest =>
    beginsBlank (c :: rest) || ("?:,]\x7d%@".toList ++ [Char.ofNat 0x60]).contains c

/-- Reads the name of an anchor or alias. -/
def readName : Reader String := do
  let name ← Reader.takeSome isNameChar
  Reader.require (endsName (← get))
  return String.ofList name

/-! ## Tags -/

/-- The characters of a tag apart from escapes. -/
def isTagChar (c : Char) : Bool :=
  c.isAlphanum || "-;/?:@&=+$,_.!~*'()[]".toList.contains c

/-- Reads the octets of a run of escapes: percent signs with two digits each. -/
def tagOctets : Nat → Reader (List UInt8)
  | 0 => return []
  | fuel + 1 => do
    if ← Reader.accept '%' then
      match ← get with
      | a :: b :: rest =>
        match Json.hexValue? a, Json.hexValue? b with
        | some m, some n =>
          set rest
          return UInt8.ofNat (16 * m + n) :: (← tagOctets fuel)
        | _, _ => Reader.refuse
      | _ => Reader.refuse
    else return []

/-- Reads a run of escapes, which have to encode a text. -/
def tagEscapes : Reader (List Char) := do
  match Text.Utf8.decode (← tagOctets (← get).length) with
  | .ok text => return text.toList
  | .error _ => Reader.refuse

/-- Reads the parts of the text of a tag. The first argument bounds their number. -/
def tagParts : Nat → Reader (List Char)
  | 0 => return []
  | fuel + 1 => do
    match (← get).head? with
    | some c =>
      if c = '%' then
        let escaped ← tagEscapes
        return escaped ++ (← tagParts fuel)
      else if isTagChar c then
        let part ← Reader.takeWhile isTagChar
        return part ++ (← tagParts fuel)
      else return []
    | none => return []

/-- Reads the text of a tag, which is not left out. -/
def readTagText : Reader String := do
  let s ← get
  let text ← tagParts s.length
  Reader.require ((← get).length < s.length)
  return String.ofList text

/-- Reads a handle: an exclamation mark, or a name between two of them. -/
def readHandle : Reader String := do
  Reader.expect '!'
  if (← get).head? = some ' ' then return "!"
  let name ← Reader.takeWhile isNameChar
  Reader.expect '!'
  return String.ofList ('!' :: name ++ ['!'])

/-- Whether another exclamation mark comes before the next gap. -/
def hasHandle (s : List Char) : Bool :=
  (s.takeWhile fun c => !(c = ' ' || isBreak c)).contains '!'

/-- Reads a tag. -/
def readTag : Reader Token := do
  let s ← get
  let tag ← match s.drop 1 with
    | '<' :: rest =>
      set rest
      let text ← readTagText
      Reader.expect '>'
      pure (Token.tag none text)
    | rest =>
      if beginsBlank rest then
        set rest
        pure (Token.tag none "!")
      else if hasHandle rest then
        let handle ← readHandle
        pure (Token.tag (some handle) (← readTagText))
      else
        set rest
        pure (Token.tag (some "!") (← readTagText))
  Reader.require (beginsGap (← get))
  return tag

/-! ## Directives -/

/-- Reads a number of a version. -/
def readVersionPart : Reader Int := do
  let digits ← Reader.takeSome Char.isDigit
  match Number.readInteger 10 (String.ofList digits) with
  | .ok n => return n
  | .error fault => throw (.integer fault)

/-- Reads the version that a directive names. -/
def readVersion : Reader Directive := do
  Reader.skipSpaces
  let major ← readVersionPart
  Reader.expect '.'
  let minor ← readVersionPart
  Reader.require (beginsGap (← get))
  return .version major minor

/-- Reads what a directive says about a handle. -/
def readTagDirective : Reader Directive := do
  Reader.skipSpaces
  let handle ← readHandle
  Reader.require ((← get).head? = some ' ')
  Reader.skipSpaces
  let stem ← readTagText
  Reader.require (beginsGap (← get))
  return .tag handle stem

/-- Reads a directive after its percent sign, and the end of its line. -/
def readDirective : Reader Directive := do
  let name ← Reader.takeSome isNameChar
  Reader.require (beginsGap (← get))
  let directive ← match String.ofList name with
    | "YAML" => readVersion
    | "TAG" => readTagDirective
    | _ => do
      Reader.skipWhile fun c => !isBreak c
      pure .reserved
  Reader.skipRestOfLine
  return directive

end LogSift.Yaml
