import ApiCatalog.FileSystem
import ApiCatalog.Text.Lines
import ApiCatalog.Text.Utf8

/-!
# Text files

Reading a file as text can fail in two ways: the file cannot be had, or its
bytes are not UTF-8.
-/

namespace ApiCatalog

/-- Why a file could not be read as text. -/
inductive Unreadable where
  | os (e : OsError)
  | encoding (f : Text.Utf8.Fault)
deriving DecidableEq, Repr

/-- The wording of why a file could not be read. -/
def Unreadable.message : Unreadable → String
  | .os e => e.message
  | .encoding f => f.message

namespace FileSystem

/-- The bytes of a file, and the text they encode. -/
def readDecoded (fs : FileSystem) (p : Path) :
    Except Unreadable (List UInt8 × List Char) := do
  let bytes ← (fs.read p).mapError Unreadable.os
  let text ← (Text.Utf8.decode bytes).mapError Unreadable.encoding
  return (bytes, text)

/-- The text of a file, with every line end as one line feed. -/
def readText (fs : FileSystem) (p : Path) : Except Unreadable (List Char) :=
  (fs.readDecoded p).map fun (_, text) => Text.unifyLines text

end FileSystem
end ApiCatalog
