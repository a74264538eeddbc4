import ApiCatalog.Failure
import ApiCatalog.Toml.Reader

/-!
# Settings files

A settings file stands in the source directory or in one of the three
directories above it; the closest one counts. Its `analyze` table holds the
values, and a relative root in it is meant from the directory of the file.

The values that go over those of a file are given by name, next to the path of
the file and to the table that is read from it. So they cannot have the names
of these two.
-/

namespace ApiCatalog

namespace SettingsFile

/-- The name of settings files. -/
def fileName : String := ".libm-analyze.toml"

/-- The path of a settings file from its directory. -/
def filePath : Path := .mk .here [fileName]

/-- The directory where the search for a settings file starts. -/
def startDirectory (fs : FileSystem) (source : Path) : Path :=
  if fs.isDirectory source then source else source.parent

/-- The places where a settings file is looked for, the closest first. -/
def places (start : Path) : List Path :=
  (start :: start.parents.take 3).map fun directory => directory.join filePath

/-- The settings file for a source directory or a file in one. -/
def discover? (fs : FileSystem) (source : Path) : Option Path :=
  (places (startDirectory fs source)).find? fs.isFile

/-- Builds settings; both kinds of fault are failures of a run. -/
def build (values overrides : List (String × Value)) :
    Except Failure Settings :=
  match Settings.build values overrides with
  | .error fault => .error (.shape fault)
  | .ok (.bad errors) => .error (.settings (.fields errors))
  | .ok (.ok settings) => .ok settings

/-- The `analyze` table of a document; a document without one has an empty
one. -/
def section? (path : Path) (document : List (String × Value)) :
    Except Failure (List (String × Value)) :=
  match document.lookup "analyze" with
  | none => .ok []
  | some (.table fields) => .ok fields
  | some _ => .error (.settings (.notTable path))

/-- The value of `root`, meant from the directory of the file. -/
def rootBelow (path : Path) : Value → Except Failure Value
  | .text s =>
      let root := Path.parse s
      .ok (if root.isAbsolute then .text s else .path (path.parent.join root))
  | v => .error (.shape (.notPathLike v.kind))

/-- The values of a table whose root is meant from the directory of the file. -/
def locate (path : Path) (fields : List (String × Value)) :
    Except Failure (List (String × Value)) :=
  match fields.lookup "root" with
  | none => .ok fields
  | some v => do
      let root ← rootBelow path v
      return ("root", root) :: fields

/-- Why a document is not read, as a failure of a run. -/
def refusalOf (path : Path) : Toml.Refusal → Failure
  | .malformed fault => .settings (.malformed path fault)
  | .oversized digits => .oversized digits

/-- Reads the document of a settings file. -/
def readDocument (fs : FileSystem) (path : Path) :
    Except Failure (List (String × Value)) :=
  match fs.readText path with
  | .error (.os e) => .error (.settings (.refused path e))
  | .error (.encoding f) => .error (.encoding f)
  | .ok text => (Toml.read text).mapError (refusalOf path)

/-- Refuses values of which one has the name of an argument of the operation. -/
def refuseName (operation name : String) (overrides : List (String × Value)) :
    Except Failure Unit :=
  if (overrides.lookup name).isSome then
    .error (.shape (.givenTwice operation name))
  else .ok ()

/-- Loads settings from a file, with values given over those of the file. The
path is an argument of the loading itself, the table one of the building at its
end. -/
def load (fs : FileSystem) (path : Path) (overrides : List (String × Value)) :
    Except Failure Settings := do
  refuseName "load_config" "path" overrides
  let document ← readDocument fs path
  let fields ← section? path document
  let values ← locate path fields
  refuseName "build_config" "values" overrides
  build values overrides

end SettingsFile
end ApiCatalog
