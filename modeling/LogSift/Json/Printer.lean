import LogSift.Number.Integer
import LogSift.Number.Shortest
import LogSift.Text.Quoted
import LogSift.Value.Show

/-!
# Writing JSON

`Json.print` writes a value over several lines, indented by two blanks a level; characters outside
ASCII stand for themselves. Lists, maps and pairs that are empty take one line. Values and keys
that the format cannot show are refused.
-/

namespace LogSift.Json

/-- Why a value cannot be written. -/
inductive PrintFault where
  /-- A key of this kind has no text. -/
  | key (kind : String)
  /-- A value of this kind has no form. -/
  | value (kind : String)
  /-- A collection holds itself. -/
  | circular
  /-- An integer cannot be shown. -/
  | integer (fault : Number.IntegerFault)
  deriving DecidableEq, Repr

/-- The wording of a fault. -/
def PrintFault.message : PrintFault → String
  | .key kind => "keys must be str, int, float, bool or None, not " ++ kind
  | .value kind => "Object of type " ++ kind ++ " is not JSON serializable"
  | .circular => "Circular reference detected"
  | .integer fault => fault.message

/-- One character inside a string. -/
def escapeChar (c : Char) : List Char :=
  if c = '"' then ['\\', '"']
  else if c = '\\' then ['\\', '\\']
  else if c = '\n' then ['\\', 'n']
  else if c = '\r' then ['\\', 'r']
  else if c = '\t' then ['\\', 't']
  else if c = '\x08' then ['\\', 'b']
  else if c = '\x0c' then ['\\', 'f']
  else if c.toNat < 0x20 then '\\' :: 'u' :: Text.hex 4 c.toNat
  else [c]

/-- A string with its quotes. -/
def printString (s : String) : List Char := '"' :: s.toList.flatMap escapeChar ++ ['"']

/-- A floating-point number. -/
def floatText : Number.Double → String
  | .nan => "NaN"
  | .infinity negative => if negative then "-Infinity" else "Infinity"
  | x => x.text

/-- An integer. -/
def integerText (n : Int) : Except PrintFault String :=
  if Number.isShowable n then .ok (toString n) else .error (.integer .tooLong)

/-- A scalar. -/
def printScalar : Scalar → Except PrintFault (List Char)
  | .null => .ok "null".toList
  | .bool b => .ok (if b then "true" else "false").toList
  | .int n => (integerText n).map String.toList
  | .float x => .ok (floatText x).toList
  | .text s => .ok (printString s)
  | s => .error (.value s.kind)

/-- The text of a key. -/
def keyText : Scalar → Except PrintFault String
  | .null => .ok "null"
  | .bool b => .ok (if b then "true" else "false")
  | .int n => integerText n
  | .float x => .ok (floatText x)
  | .text s => .ok s
  | s => .error (.key s.kind)

/-- A new line at a level. -/
def newline (level : Nat) : List Char := '\n' :: List.replicate (2 * level) ' '

/-- The parts of a list or an object between its brackets. -/
def printBlock (opening closing : Char) (level : Nat) (parts : List (List Char)) : List Char :=
  match parts with
  | [] => [opening, closing]
  | first :: rest =>
    opening :: newline (level + 1) ++ first ++
      rest.flatMap (fun part => ',' :: newline (level + 1) ++ part) ++ newline level ++ [closing]

mutual

/-- A value whose brackets stand at a level. -/
def printValue (level : Nat) : Value → Except PrintFault (List Char)
  | .scalar s => printScalar s
  | .list items => return printBlock '[' ']' level (← printItems (level + 1) items)
  | .pair a b => do
    let first ← printValue (level + 1) a
    let second ← printValue (level + 1) b
    return printBlock '[' ']' level [first, second]
  | .map entries => return printBlock '\x7b' '\x7d' level (← printEntries (level + 1) entries)
  | .set _ => throw (.value "set")
  | .enclosing _ => throw .circular

/-- The items of a list. -/
def printItems (level : Nat) : List Value → Except PrintFault (List (List Char))
  | [] => .ok []
  | v :: rest => return (← printValue level v) :: (← printItems level rest)

/-- The entries of a map. -/
def printEntries (level : Nat) : List (Scalar × Value) → Except PrintFault (List (List Char))
  | [] => .ok []
  | (k, v) :: rest => do
    let key ← keyText k
    let value ← printValue level v
    return (printString key ++ ':' :: ' ' :: value) :: (← printEntries level rest)

end

/-- Writes a value. -/
def print (v : Value) : Except PrintFault String := (printValue 0 v).map String.ofList

end LogSift.Json
