import ApiCatalog.Event
import ApiCatalog.Failure
import ApiCatalog.Json
import ApiCatalog.Toml.Writer

/-!
# Targets

A target receives records. A collector only keeps them; a writer also has a
text, which closing it gives and puts into its file. The text is made before the
file is touched, and closing keeps the records.
-/

namespace ApiCatalog

/-- The formats of a catalog. -/
inductive Format where
  | toml
  | json
deriving DecidableEq, Repr

/-- What a target does with its records. -/
inductive Sink where
  | collector
  /-- A writer of a format; without a format it has no text. -/
  | writer (format : Option Format) (path : Option Path) (source : String)
deriving DecidableEq, Repr

/-- Something that receives records, with those it has. -/
structure Target where
  sink : Sink
  records : List Record := []
deriving DecidableEq, Repr

namespace Target

/-- A target with one more record. -/
def receive (t : Target) (r : Record) : Target :=
  { t with records := t.records ++ [r] }

/-- A writer of a format with no records yet. -/
def writer (format : Format) (path : Option Path) (source : String) : Target :=
  { sink := .writer (some format) path source }

/-- The text of records in a format. -/
def renderAs (source : String) (records : List Record) :
    Format → Except Failure String
  | .json => .ok (Json.write source records)
  | .toml =>
      match Toml.write? source records with
      | some text => .ok text
      | none => .error .unwritable

/-- The text of a target. -/
def render (t : Target) : Except Failure String :=
  match t.sink with
  | .collector => .error .notClosable
  | .writer none _ _ => .error .noFormat
  | .writer (some format) _ source => renderAs source t.records format

/-- The file of a target. -/
def path? (t : Target) : Option Path :=
  match t.sink with
  | .collector => none
  | .writer _ path _ => path

/-- Puts a text into a file, and reports how many records it holds. -/
def store (fs : FileSystem) (path : Path) (count : Nat) (text : String) :
    FileSystem × Run Failure String :=
  match fs.writeWithParents path (Text.Utf8.encode text.toList) with
  | (fs, .error e) => (fs, Run.fail (.os e))
  | (fs, .ok ()) =>
      (fs, do
        Run.log .info ("Wrote " ++ toString count ++ " records to " ++ path.text)
        return text)

/-- Makes the text of a target and puts it into its file, if it has one. -/
def close (fs : FileSystem) (t : Target) : FileSystem × Run Failure String :=
  match t.render with
  | .error f => (fs, Run.fail f)
  | .ok text =>
      match t.path? with
      | none => (fs, return text)
      | some path => store fs path t.records.length text

end Target

/-- Reports that records were sent to some targets. -/
def reportEmitted (records targets : Nat) : Run Failure Unit :=
  Run.log .info ("Emitted " ++ toString records ++ " records to " ++
    toString targets ++ " target(s)")

end ApiCatalog
