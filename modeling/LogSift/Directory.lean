import LogSift.Path
import LogSift.Text.Quoted
import LogSift.Text.Utf8

/-!
# Directories

A `Directory` holds the files that a run can see, under relative or absolute paths. Folders are
known by the files in them, or by themselves. Reading a path that is no file and writing where no
file can be gives a `SystemError`.
-/

namespace LogSift

/-- What the system says about a path that cannot be used. -/
inductive SystemError where
  | noSuchFile (path : String)
  | isFolder (path : String)
  | notFolder (path : String)
  | nameTooLong (path : String)
  | embeddedNull
  deriving DecidableEq, Repr

/-- The wording of a system error. -/
def SystemError.message : SystemError → String
  | .noSuchFile path => "[Errno 2] No such file or directory: " ++ Text.quote path
  | .isFolder path => "[Errno 21] Is a directory: " ++ Text.quote path
  | .notFolder path => "[Errno 20] Not a directory: " ++ Text.quote path
  | .nameTooLong path => "[Errno 36] File name too long: " ++ Text.quote path
  | .embeddedNull => "embedded null byte"

/-- A file: the path that leads to it, without detours, and its octets. -/
structure File where
  path : Path
  octets : List UInt8
  deriving DecidableEq, Repr

/-- The folders that every system has. -/
def systemFolders : List Path :=
  ⟨1, []⟩ :: ["bin", "dev", "etc", "home", "lib", "opt", "proc", "root", "sys", "tmp", "usr",
    "var"].map fun name => ⟨1, [name]⟩

/-- The device that is empty and takes everything. -/
def nullDevice : Path := ⟨1, ["dev", "null"]⟩

/-- Files and folders. -/
structure Directory where
  files : List File
  folders : List Path := systemFolders
  deriving DecidableEq, Repr

/-- What a path leads to. -/
inductive Target where
  | file (f : File)
  | folder
  | null
  /-- Nothing, in a folder where a file with this path can be made. -/
  | free (path : Path)
  | noFolder
  | notFolder
  | nameTooLong
  | embeddedNull

namespace Directory

/-- The greatest number of octets of a name. -/
def nameLimit : Nat := 255

/-- The greatest number of octets of a path. -/
def pathLimit : Nat := 4095

/-- The file at a path. -/
def find? (d : Directory) (path : Path) : Option File := d.files.find? fun f => f.path == path

/-- Whether a path leads to a folder. -/
def hasFolder (d : Directory) (path : Path) : Bool :=
  d.folders.contains path || d.files.any fun f =>
    f.path.slashes == path.slashes && path.names.isPrefixOf f.path.names
      && f.path.names.length != path.names.length

/-- Follows names from a folder on. -/
def follow (d : Directory) (here : Path) : List String → Target
  | [] => .folder
  | name :: rest =>
    let path := here.step name
    if name = ".." then follow d path rest
    else if nameLimit < name.utf8ByteSize then .nameTooLong
    else if path = nullDevice then (if rest.isEmpty then .null else .notFolder)
    else match d.find? path with
      | some f => if rest.isEmpty then .file f else .notFolder
      | none =>
        if d.hasFolder path then follow d path rest
        else if rest.isEmpty then .free path
        else .noFolder

/-- What a path leads to. -/
def target (d : Directory) (p : Path) : Target :=
  if p.hasNull then .embeddedNull
  else if pathLimit < p.text.utf8ByteSize then .nameTooLong
  else d.follow p.origin p.names

/-- Whether there is something at a path; too long a name cannot be looked up. -/
def exists? (d : Directory) (p : Path) : Except SystemError Bool :=
  match d.target p with
  | .file _ | .folder | .null => .ok true
  | .free _ | .noFolder | .notFolder | .embeddedNull => .ok false
  | .nameTooLong => .error (.nameTooLong p.text)

/-- The octets of the file at a path. -/
def read (d : Directory) (p : Path) : Except SystemError (List UInt8) :=
  match d.target p with
  | .file f => .ok f.octets
  | .null => .ok []
  | .folder => .error (.isFolder p.text)
  | .free _ | .noFolder => .error (.noSuchFile p.text)
  | .notFolder => .error (.notFolder p.text)
  | .nameTooLong => .error (.nameTooLong p.text)
  | .embeddedNull => .error .embeddedNull

/-- Puts octets at a path. -/
def put (d : Directory) (path : Path) (octets : List UInt8) : Directory :=
  { d with files :=
      if (d.find? path).isSome then
        d.files.map fun f => if f.path == path then ⟨path, octets⟩ else f
      else d.files ++ [⟨path, octets⟩] }

/-- The directory after a text has been written to a path. -/
def write (d : Directory) (p : Path) (text : String) : Except SystemError Directory :=
  match d.target p with
  | .file f => .ok (d.put f.path (Text.Utf8.encode text))
  | .free path => .ok (d.put path (Text.Utf8.encode text))
  | .null => .ok d
  | .folder => .error (.isFolder p.text)
  | .noFolder => .error (.noSuchFile p.text)
  | .notFolder => .error (.notFolder p.text)
  | .nameTooLong => .error (.nameTooLong p.text)
  | .embeddedNull => .error .embeddedNull

end Directory

end LogSift
