import ApiCatalog.Source
import ApiCatalog.Validation

/-!
# Analysis

One pass over a source tree: load it, read the declarations off it, judge them.
A load failure stops the pass before anything is read, and in strict mode a
recorded violation fails it at the end.
-/

namespace ApiCatalog.Analysis

/-- The source tree that settings point to. -/
def sources (parse : List UInt8 → Node) (fs : FileSystem) (s : Settings) :
    SourceTree :=
  { files := fs, root := s.root, extensions := s.extensions, parse }

/-- The candidates of a source tree, without the ignored ones. -/
def candidates (t : SourceTree) (ignored : List String) :
    Run Failure (List Candidate) := do
  let units ← t.load.mapError Failure.load
  (Extraction.extractAll ignored units).mapError Failure.encoding

/-- Warns of violations, and fails in strict mode. -/
def settle (s : Settings) (catalog : Catalog) : Run Failure Catalog :=
  if catalog.ok then return catalog
  else do
    let names := Text.nameSet (catalog.violations.map (·.identifier))
    Run.log .warning (toString catalog.violations.length ++
      " validation errors in " ++ toString names.length ++ " functions")
    if s.strict then Run.fail (.strict catalog.violations)
    else return catalog

/-- The catalog of the source tree that settings point to. -/
def analyze (parse : List UInt8 → Node) (fs : FileSystem) (s : Settings) :
    Run Failure Catalog := do
  let found ← candidates (sources parse fs s) s.ignored
  let catalog ← Validation.validate s none s.root.text found
  settle s catalog

end ApiCatalog.Analysis
