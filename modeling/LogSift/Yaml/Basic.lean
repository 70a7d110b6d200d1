import LogSift.Text.Lines
import LogSift.Yaml.Lexer
import LogSift.Yaml.Value

/-!
# YAML

`Yaml.read` reads the value of a text in the YAML notation, version 1.1. The text holds one
document at most; an empty text stands for null.
-/

namespace LogSift.Yaml

/-- Reads the tree of nodes of a text. -/
def readNode (text : String) : Except Fault (Option Node) := do
  let s := text.toList
  if s.all isAllowed then Node.ofTokens (← tokens (Text.unifyNewlines s)) else throw .malformed

/-- Reads a document. -/
def read (text : String) : Except Fault Value := do
  match ← readNode text with
  | none => return .null
  | some node => node.value

end LogSift.Yaml
