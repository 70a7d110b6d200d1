import LogSift.CommandLine.Run

/-!
# The program

What the arguments name is read, `CommandLine.run` does the work, and what it leaves behind is
written and printed.
-/

namespace LogSift

open CommandLine

/-- The octets of a file of the system, if it can be read. -/
def readOctets? (path : String) : IO (Option (List UInt8)) := do
  try return some (← IO.FS.readBinFile path).toList
  catch _ => return none

/-- Whether there is a folder of the system at a path. -/
def isFolder (path : String) : IO Bool := do
  ((← IO.currentDir) / path).isDir

/-- Adds the folders on the way of a path and the file at its end. -/
def addPath (d : Directory) (p : Path) : IO Directory := do
  let ways := (List.range (p.names.length + 1)).map fun n => { p with names := p.names.take n }
  let folders ← ways.filterM fun way => isFolder way.text
  let files := match ← readOctets? p.text with
    | some octets => [⟨p.direct, octets⟩]
    | none => []
  return { files := d.files ++ files, folders := d.folders ++ folders.map Path.direct }

/-- Reads what a request names: files and folders, and the standard input. -/
def readSystem (i : Invocation) : IO (Directory × List UInt8) := do
  let isInput := i.command = .file && i.subject = "-"
  let subject := if i.command = .file && !isInput then [i.subject] else []
  let paths := i.matcher :: subject ++ i.settings.output.toList
  let d ← (paths.map Path.ofText).foldlM addPath { files := [] }
  let input ← if isInput then (← IO.getStdin).readBinToEnd else pure ⟨#[]⟩
  return (d, input.toList)

/-- Writes the files that a run has changed. -/
def writeChanges (before after : Directory) : IO Unit := do
  for f in after.files do
    unless before.files.contains f do
      IO.FS.writeBinFile f.path.text (ByteArray.mk f.octets.toArray)

/-- The code with which a run ends; what escapes is reported. -/
def finish : Ending → IO UInt32
  | .exit code => return UInt32.ofNat code
  | .escape e => do
    IO.eprintln e.message
    return 1

end LogSift

/-- Runs the program. -/
def main (arguments : List String) : IO UInt32 := do
  let (before, input) ← match LogSift.CommandLine.parseArguments arguments with
    | .ok (.run i) => LogSift.readSystem i
    | _ => pure ({ files := [] }, [])
  let outcome := LogSift.CommandLine.run .unbounded before input arguments
  LogSift.writeChanges before outcome.directory
  IO.eprint outcome.errors
  IO.print outcome.output
  LogSift.finish outcome.ending
