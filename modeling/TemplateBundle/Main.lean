import TemplateBundle.CommandLine.Arguments
import TemplateBundle.CommandLine.Execution

/-! The program: it takes up the files below the working directory, carries out its command line on
them, and writes what has changed. -/
namespace TemplateBundle

partial def loadEntry (parent : Location) (entry : IO.FS.DirEntry) :
    IO (List (Location × FileEntry)) := do
  let place := parent ++ [entry.fileName]
  if ← entry.path.isDir then
    let inner ← (← entry.path.readDir).toList.mapM (loadEntry place)
    return (place, .directory) :: inner.flatten
  else
    let bytes ← IO.FS.readBinFile entry.path
    return [(place, .file bytes.toList)]

/-- The files below the working directory, and the directories that lead to it. -/
def loadTree : IO FileTree := do
  let directory ← IO.currentDir
  let place := directory.toString.splitOn "/" |>.filter fun name => !name.isEmpty
  let outer := (List.range place.length).map fun n => (place.take (n + 1), FileEntry.directory)
  let inner ← (← directory.readDir).toList.mapM (loadEntry place)
  return ⟨outer ++ inner.flatten, place⟩

def placeText (place : Location) : String := "/" ++ "/".intercalate place

/-- Writes the directories and files that are new or other than before. -/
def saveTree (before after : FileTree) : IO Unit := do
  for (place, entry) in after.entries.reverse do
    if entry = .directory ∧ before.get? place ≠ some .directory then
      IO.FS.createDirAll (placeText place)
  for (place, bytes) in after.changesSince before do
    IO.FS.writeBinFile (placeText place) bytes.toByteArray

partial def readAll (stream : IO.FS.Stream) : IO (List UInt8) := do
  let piece ← stream.read 65536
  if piece.isEmpty then return []
  else return piece.toList ++ (← readAll stream)

def Command.readsInput : Command → Bool
  | .compile arguments _ => arguments.sources.contains stdinSource
  | .precompile arguments _ => arguments.sources.contains stdinSource
  | .build _ => false

/-- What is said about a command line that is none. -/
def UsageError.text : UsageError → String
  | .version => "bundlebars 0.2.0\n"
  | _ => "Usage: bundlebars [-v|-q] <compile|precompile|build> [OPTIONS] [SOURCES]...\n"

end TemplateBundle

open TemplateBundle in
/-- Carries out a command line; the result is the exit status. -/
def main (words : List String) : IO UInt32 := do
  match CommandLine.parse words with
  | .error e =>
    if e.exitStatus = 0 then IO.print e.text else IO.eprint e.text
    return e.exitStatus.toUInt32
  | .ok line =>
    let input ← if line.command.readsInput then readAll (← IO.getStdin) else pure []
    let before : Session := { tree := ← loadTree, input }
    let (status, after) := line.execute before
    saveTree before.tree after.tree
    if line.logFilter?.all (· ≠ "error") then
      for warning in after.warnings do
        IO.eprintln ("WARN " ++ warning.message)
    IO.print after.output
    IO.eprint after.errors
    return status.toUInt32
