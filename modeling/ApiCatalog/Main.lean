import ApiCatalog.CommandLine.Execution
import ApiCatalog.Rust.Parser

/-!
# The program

The outer layer: it takes a snapshot of the files that a command line can ask
for, runs the command line on the snapshot, and puts what changed back on the
disk. Everything that is decided is decided on the snapshot.
-/

namespace ApiCatalog.Program

/-- The place of a path, where `..` means one name less. -/
def locate (p : Path) : Location :=
  p.parts.foldl
    (fun l name => if name == ".." then Location.up l else l ++ [name])
    (FileSystem.start p)

/-- The text of a place. -/
def textOf : Location → String
  | [] => "."
  | "/" :: names => "/" ++ String.intercalate "/" names
  | names => String.intercalate "/" names

/-- Adds what is at a place, if there is something. -/
def look (fs : FileSystem) (l : Location) : IO FileSystem := do
  let path := (← IO.currentDir) / textOf l
  if ← path.isDir then return fs.put l .directory
  else if ← path.pathExists then
    let bytes ← IO.FS.readBinFile path
    return fs.put l (.file bytes.toList)
  else return fs

/-- Adds what is at a place and below it. -/
partial def lookBelow (fs : FileSystem) (l : Location) : IO FileSystem := do
  let path := (← IO.currentDir) / textOf l
  let mut fs ← look fs l
  if ← path.isDir then
    for entry in ← path.readDir do
      fs ← lookBelow fs (l ++ [entry.fileName])
  return fs

/-- Adds what is on the way to a path. -/
def lookAlong (fs : FileSystem) (p : Path) : IO FileSystem := do
  let mut fs := fs
  for n in List.range (p.parts.length + 1) do
    fs ← look fs (locate (p.front n))
  return fs

/-- The files that options can ask for. -/
def snapshot (o : CommandLine.Options) : IO FileSystem := do
  let mut fs ← lookAlong .empty o.root
  fs ← lookBelow fs (locate o.root)
  for directory in o.root :: o.root.parents do
    fs ← lookAlong fs (directory.join SettingsFile.filePath)
  for path in o.config.toList ++ o.output.toList do
    fs ← lookAlong fs path
  return fs

/-- Puts what is new in a file system on the disk, the oldest first. -/
def store (before after : FileSystem) : IO Unit := do
  for (l, entry) in after.entries.reverse do
    if before.entry? l != some entry then
      let path := (← IO.currentDir) / textOf l
      match entry with
      | .directory => IO.FS.createDirAll path
      | .file bytes => IO.FS.writeBinFile path ⟨bytes.toArray⟩

/-- Runs a command line on the disk and gives the exit code. -/
def run (words : List String) : IO UInt32 := do
  let files ←
    match CommandLine.parse words with
    | .ok o => snapshot o
    | .error _ => pure .empty
  let outcome := CommandLine.run Rust.parse files words
  store files outcome.files
  (← IO.getStderr).putStr outcome.stderr
  (← IO.getStdout).putStr outcome.stdout
  match outcome.result with
  | .ok code => return code.toUInt32
  | .error failure => do
      (← IO.getStderr).putStr (failure.message ++ "\n")
      return 1

end ApiCatalog.Program

/-- The entry point. -/
def main (words : List String) : IO UInt32 :=
  ApiCatalog.Program.run words
