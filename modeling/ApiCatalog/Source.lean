import ApiCatalog.Extraction

/-!
# Source trees

Loading is all or nothing: the files with a matching suffix are read and parsed
in the order of their relative paths, and the first one that fails stops the
load. The parser is a parameter, a function from bytes to a tree.
-/

namespace ApiCatalog

/-- Where sources are and how they are parsed. -/
structure SourceTree where
  files : FileSystem
  root : Path
  extensions : List String := [".rs"]
  parse : List UInt8 → Node

namespace SourceTree

/-- Whether a path has one of the suffixes. -/
def isSource (t : SourceTree) (path : Path) : Bool :=
  t.extensions.contains path.suffix

/-- The relative paths of the source files, in order. -/
def discover (t : SourceTree) : List Path :=
  match t.files.resolve t.root with
  | .error _ => []
  | .ok base => Text.sortBy Path.text ((t.files.filesBelow base).filter t.isSource)

/-- The line of the first error of a tree, counted from one. -/
def errorLine? (tree : Node) : Option Nat :=
  tree.firstError?.map (·.row + 1)

/-- The path of a file as it is shown: below the root if it is there. -/
def shownPath (t : SourceTree) (path : Path) : String :=
  ((path.relativeTo? t.root).getD path).text

/-- Loads one file. -/
def loadFile (t : SourceTree) (path : Path) : Run LoadFailure SourceUnit :=
  match t.files.readDecoded path with
  | .error why => Run.fail ⟨path, .unreadable why⟩
  | .ok (bytes, _) =>
      let tree := t.parse bytes
      if tree.hasError then Run.fail ⟨path, .badSyntax (errorLine? tree)⟩
      else do
        Run.log .debug ("Parsed " ++ t.shownPath path)
        return { path := t.shownPath path, bytes, tree }

/-- Loads files in order, up to the first failure. -/
def loadFiles (t : SourceTree) : List Path → Run LoadFailure (List SourceUnit)
  | [] => return []
  | path :: rest => do
      let unit ← t.loadFile path
      let units ← t.loadFiles rest
      return unit :: units

/-- A run that reports its failure before it stops. -/
def reporting {α : Type} (r : Run LoadFailure α) : Run LoadFailure α :=
  match r.result with
  | .ok _ => r
  | .error f => ⟨r.events ++ [.log .error f.message], .error f⟩

/-- Loads every source file. The result is the units or a failure, never both: that a
failed load has no units holds by its type. -/
def load (t : SourceTree) : Run LoadFailure (List SourceUnit) :=
  if t.files.isDirectory t.root then do
    let units ← reporting (t.loadFiles (t.discover.map t.root.join))
    Run.log .info ("Loaded " ++ toString units.length ++ " source files from " ++
      t.root.text)
    return units
  else Run.fail ⟨t.root, .notDirectory⟩

end SourceTree
end ApiCatalog
