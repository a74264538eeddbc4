import ApiCatalog.Failure
import ApiCatalog.Record
import ApiCatalog.Toml.Reader

/-!
# Record files

Reading back the records of a TOML catalog. Whatever stands under `functions`
is gone through item by item, and the first item that is no record decides.
-/

namespace ApiCatalog.RecordFile

/-- An item as a record. -/
def recordOf : Value → Except Failure Record
  | .table fields => (Record.ofFields fields).toExcept.mapError .fields
  | v => .error (.shape (.notFields v.fullKind))

/-- The records of a document. -/
def ofDocument (document : List (String × Value)) :
    Except Failure (List Record) :=
  match document.lookup "functions" with
  | none => .ok []
  | some v => do
      let items ← v.items?.mapError Failure.shape
      items.mapM recordOf

/-- Why a document is not read, as a failure of a run. -/
def refusalOf : Toml.Refusal → Failure
  | .malformed f => .toml f
  | .oversized digits => .oversized digits

/-- The records that a text holds. -/
def parse (text : List Char) : Except Failure (List Record) := do
  let document ← (Toml.read text).mapError refusalOf
  ofDocument document

/-- Why a file could not be read, as a failure of a run. -/
def failureOf : Unreadable → Failure
  | .os e => .os e
  | .encoding f => .encoding f

/-- The records that a file holds. -/
def load (fs : FileSystem) (path : Path) : Except Failure (List Record) := do
  let text ← (fs.readText path).mapError failureOf
  parse text

end ApiCatalog.RecordFile
