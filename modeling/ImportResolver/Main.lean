import ImportResolver.CommandLine.Run
import ImportResolver.FileSystem.Snapshot
import ImportResolver.Shell.Run
/- The command line. The file tree comes as a snapshot on standard input, and programs in it are
scripts; what a command prints goes to standard output, its problem to standard error, and the files
that it changed follow there as entries of a snapshot. -/
namespace ImportResolver

def environment : IO Environment := do
  return {
    home := ← IO.getEnv "HOME"
    modulePath := ← IO.getEnv "NODE_PATH"
    programPath := ← IO.getEnv "PATH"
    optionsFile := ← IO.getEnv "RESOLVEXT_CONFIG" }

def draw : IO String := do
  let letters := "0123456789ABCDEFGHIJKLMNOPQRSTUVWXYZabcdefghijklmnopqrstuvwxyz".toList
  let drawn ← (List.range 6).mapM fun _ => IO.rand 0 (letters.length - 1)
  return String.ofList (drawn.map fun n => letters.getD n '0')

/-- How many names are drawn for a new file before it is given up. -/
def drawLimit : Nat := 256

def host : IO Host := do
  let draws ← (List.range drawLimit).mapM fun _ => draw
  return { launch := Shell.run, draws := fun _ => draws }

/-- The files of the second tree that are not as in the first. -/
def changedFiles (before after : FileSystem) : List (Path × String) :=
  after.tree.entries.filterMap fun
    | (loc, .file bytes mode) =>
      if before.tree.get? loc = some (.file bytes mode) then none
      else some (FileSystem.Location.path loc, Text.Utf8.decodeLossy bytes)
    | _ => none

/-- The name of the directory that a snapshot describes. -/
def workingDirectory : String := "work"

end ImportResolver

open ImportResolver

def main (args : List String) : IO UInt32 := do
  let text ← (← IO.getStdin).readToEnd
  match (Json.parse? text).bind FileSystem.entriesOf? with
  | none =>
    IO.eprintln "Error: the snapshot on standard input cannot be read"
    return 1
  | some entries =>
    let fs := (FileSystem.base workingDirectory).putAll ⟨"/" ++ workingDirectory⟩ entries
    let e := CommandLine.run (← host) fs (← environment) args
    IO.print e.output
    if let some problem := e.problem then
      IO.eprintln ("Error: " ++ problem.code?.getD "")
      IO.eprintln problem.message
    for (path, content) in changedFiles fs e.fileSystem do
      IO.eprintln (Json.array [path.toJson, Json.ofString content]).render
    return UInt32.ofNat e.exit
