import LogSift.Directory
import LogSift.Json.Reader
import LogSift.MatcherFile.Document
import LogSift.Unicode.Lower
import LogSift.Yaml.Basic

/-!
# Loading matcher files

`load` reads the matchers of a file. The file is read as UTF-8, with every return taken for a line
feed; the suffix of its name, in any case, says in which notation it is written. The owners of all
matchers have to be texts.

Lists, maps and the groups of expressions may be nested. How deep depends on the stack that a run
has left for it, so it is for the `Stack` to say which files it does not hold.
-/

namespace LogSift.MatcherFile

open Matcher (Description)

/-- Why a matcher file does not give matchers. -/
inductive LoadError where
  | notFound (path : String)
  | system (error : SystemError)
  | notText (path : String) (failure : Text.Utf8.Failure)
  | unknownSuffix (suffix : String)
  | json (path : String) (fault : Json.Fault) (line column position : Nat)
  /-- The file holds an integer that is too long. -/
  | integer (fault : Number.IntegerFault)
  /-- The file is not well formed YAML. -/
  | yaml (path : String)
  /-- A scalar of the file has no value of its type. -/
  | yamlScalar (fault : Yaml.Fault)
  /-- The file escapes a lone surrogate. It is left out here, whatever becomes of it elsewhere. -/
  | loneSurrogate
  /-- The file is nested deeper than the stack goes. -/
  | tooDeep
  | document (error : DocumentError)

/-- The wording of an error. Left out are the words of the YAML reader about a file that is not
well formed, and what was being read when the stack ended. -/
def LoadError.message : LoadError → String
  | .notFound path => "Matcher file not found: " ++ path
  | .system error => error.message
  | .notText path failure =>
    "Matcher file " ++ path ++ " is not valid UTF-8: " ++ failure.message
  | .unknownSuffix suffix =>
    "Unsupported matcher file type '" ++ suffix ++ "' (expected .json, .yaml or .yml)"
  | .json path fault line column position =>
    "Could not parse matcher file " ++ path ++ ": "
      ++ (Json.Error.malformed fault line column position).message
  | .integer fault => fault.message
  | .yaml path => "Could not parse matcher file " ++ path
  | .yamlScalar fault => fault.message
  | .loneSurrogate => Json.Error.loneSurrogate.message
  | .tooDeep => "maximum recursion depth exceeded"
  | .document error => error.message

/-- The notations of matcher files. -/
inductive Notation where
  | json
  | yaml
  deriving DecidableEq, Repr

/-- The notation that a suffix announces. -/
def notationOf? (suffix : String) : Option Notation :=
  match Unicode.lowerText suffix with
  | ".json" => some .json
  | ".yaml" | ".yml" => some .yaml
  | _ => none

/-- The stack of a run: which texts are nested too deep for it, in themselves or in an expression
that is compiled. -/
structure Stack where
  overflows : Notation → String → Bool

/-- A stack that holds everything. -/
def Stack.unbounded : Stack := ⟨fun _ _ => false⟩

/-- Reads a document in a notation. -/
def parseText (stack : Stack) (path text : String) (n : Notation) : Except LoadError Value :=
  if stack.overflows n text then .error .tooDeep
  else
    match n with
    | .json =>
      match Json.read text with
      | .ok v => .ok v
      | .error (.malformed fault line column position) =>
        .error (.json path fault line column position)
      | .error (.integer fault) => .error (.integer fault)
      | .error .loneSurrogate => .error .loneSurrogate
    | .yaml =>
      match Yaml.read text with
      | .ok v => .ok v
      | .error .malformed => .error (.yaml path)
      | .error .loneSurrogate => .error .loneSurrogate
      | .error fault => .error (.yamlScalar fault)

/-- The text of a matcher file. -/
def readText (d : Directory) (p : Path) : Except LoadError String :=
  match d.read p with
  | .error e => .error (.system e)
  | .ok octets =>
    match Text.Utf8.decode octets with
    | .error failure => .error (.notText p.text failure)
    | .ok text => .ok (String.ofList (Text.unifyNewlines text.toList))

/-- Reads the document of a matcher file. -/
def readDocument (stack : Stack) (d : Directory) (p : Path) : Except LoadError Value := do
  let text ← readText d p
  match notationOf? p.suffix with
  | some n => parseText stack p.text text n
  | none => throw (.unknownSuffix p.suffix)

/-- Reads the matchers of a file. -/
def load (stack : Stack) (d : Directory) (p : Path) : Except LoadError (List Description) := do
  match d.exists? p with
  | .error e => throw (.system e)
  | .ok false => throw (.notFound p.text)
  | .ok true =>
    let document ← readDocument stack d p
    match matchersOf document with
    | .error e => throw (.document e)
    | .ok matchers =>
      match ownerTexts 0 matchers with
      | .error e => throw (.document e)
      | .ok _ => return matchers

end LogSift.MatcherFile
