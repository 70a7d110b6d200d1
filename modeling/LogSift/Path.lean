import LogSift.Text.Lines

/-!
# Paths

A `Path` is a list of names, after slashes if it is absolute. Empty names and single dots are left
out when a path is read; double dots stay, and `Path.direct` follows them. `Path.suffix` is the part
of the last name from its last dot on, unless the dot is the first or the last character.
-/

namespace LogSift

/-- The way to a file. -/
structure Path where
  /-- The slashes in front: none, one, or two. -/
  slashes : Nat
  names : List String
  deriving DecidableEq, Repr

namespace Path

/-- The number of slashes that count at the beginning of a text. -/
def leadingSlashes (s : List Char) : Nat :=
  match (s.takeWhile (· == '/')).length with
  | 0 => 0
  | 2 => 2
  | _ => 1

/-- Reads a path. -/
def ofText (s : String) : Path :=
  let pieces := Text.splitOn '/' s.toList
  ⟨leadingSlashes s.toList, (pieces.filter fun p => p != [] && p != ['.']).map String.ofList⟩

/-- The path in writing. -/
def text (p : Path) : String :=
  if p.slashes = 0 && p.names.isEmpty then "."
  else String.ofList (List.replicate p.slashes '/') ++ String.intercalate "/" p.names

/-- The path to something in a folder. -/
def child (folder : Path) (name : String) : Path := { folder with names := folder.names ++ [name] }

/-- The path to the folder around a folder. A relative path leaves the place where it starts by
double dots; there is nothing above the root. -/
def parent (folder : Path) : Path :=
  if folder.slashes = 0 && folder.names.getLast?.all (· == "..") then folder.child ".."
  else { folder with names := folder.names.dropLast }

/-- One name further from a folder. -/
def step (folder : Path) (name : String) : Path :=
  if name = ".." then folder.parent else folder.child name

/-- The place where a path starts. -/
def origin (p : Path) : Path := ⟨min p.slashes 1, []⟩

/-- The path without detours through other folders. -/
def direct (p : Path) : Path := p.names.foldl step p.origin

/-- Whether a name has a null character in it. No system follows such a path. -/
def hasNull (p : Path) : Bool := p.names.any fun name => name.toList.contains '\x00'

/-- The end of a name from its last dot on. -/
def suffixOf (name : List Char) : List Char :=
  let back := name.reverse
  let extension := (back.takeWhile (· != '.')).reverse
  let stem := (back.dropWhile (· != '.')).drop 1
  if extension.isEmpty || stem.isEmpty then [] else '.' :: extension

/-- The suffix of the last name. -/
def suffix (p : Path) : String :=
  String.ofList (suffixOf (p.names.getLast?.getD "").toList)

end Path

end LogSift
