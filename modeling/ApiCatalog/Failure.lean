import ApiCatalog.Settings
import ApiCatalog.TextFile
import ApiCatalog.Toml.Scalar
import ApiCatalog.Violation

/-!
# Failures

What can stop a run, each with its cause. The wording stands apart in the
`message` functions.
-/

namespace ApiCatalog

/-- Why sources could not be loaded. -/
inductive LoadCause where
  | notDirectory
  | unreadable (why : Unreadable)
  /-- The line of the first error, if the tree shows one. -/
  | badSyntax (line : Option Nat)
  /-- A reason in the words of a caller. -/
  | stated (reason : String)
deriving DecidableEq, Repr

/-- The reason given for a cause. -/
def LoadCause.reason : LoadCause → String
  | .notDirectory => "source root is not a directory"
  | .unreadable why => "unreadable: " ++ why.message
  | .badSyntax (some line) => "syntax error at line " ++ toString line
  | .badSyntax none => "syntax error at unknown location"
  | .stated reason => reason

/-- A source tree or file that could not be loaded. -/
structure LoadFailure where
  path : Path
  cause : LoadCause
deriving DecidableEq, Repr

/-- The wording of a load failure. -/
def LoadFailure.message (f : LoadFailure) : String :=
  "failed to load " ++ f.path.text ++ ": " ++ f.cause.reason

/-- Why settings could not be had. -/
inductive SettingsFailure where
  /-- The operating system refused the settings file. -/
  | refused (path : Path) (e : OsError)
  /-- The settings file is no TOML document. -/
  | malformed (path : Path) (f : Toml.Fault)
  /-- The `analyze` entry of a settings file is no table. -/
  | notTable (path : Path)
  /-- Some fields have wrong values. -/
  | fields (errors : List FieldError)
deriving Repr

namespace FieldError

/-- The spelling of one step. -/
def stepText : FieldStep → String
  | .field name => name
  | .item index => toString index

/-- The longest front of a text that takes at most so many bytes. -/
def frontWithin : Nat → List Char → List Char
  | _, [] => []
  | room, c :: rest =>
      if c.utf8Size ≤ room then c :: frontWithin (room - c.utf8Size) rest
      else []

/-- A text of more than fifty bytes by its beginning and its end, with `...`
between them. -/
def shorten (s : String) : String :=
  let cs := s.toList
  if Text.Utf8.size cs ≤ 50 then s
  else
    String.ofList (frontWithin 25 cs) ++ "..." ++
      String.ofList (frontWithin 24 cs.reverse).reverse

/-- The lines that describe a refused field. -/
def describe (e : FieldError) : String :=
  String.intercalate "." (e.steps.map stepText) ++ "\n  " ++ e.cause.message ++
    " [type=" ++ e.cause.code ++ ", input_value=" ++ shorten e.input.shown ++
    ", input_type=" ++ e.input.kind ++ "]\n" ++
    "    For further information visit https://errors.pydantic.dev/2.14/v/" ++
    e.cause.code

/-- The heading and the descriptions of refused fields of a structure. -/
def summary (structureName : String) (errors : List FieldError) : String :=
  let plural := if errors.length == 1 then "" else "s"
  String.intercalate "\n"
    ((toString errors.length ++ " validation error" ++ plural ++ " for " ++
      structureName) :: errors.map describe)

end FieldError

/-- The wording of a settings failure. -/
def SettingsFailure.message : SettingsFailure → String
  | .refused path e => "cannot read " ++ path.text ++ ": " ++ e.message
  | .malformed path f => "cannot read " ++ path.text ++ ": " ++ f.message
  | .notTable path => path.text ++ ": [analyze] must be a table"
  | .fields errors => FieldError.summary "AnalyzeConfig" errors

/-- What can stop a run. -/
inductive Failure where
  | load (f : LoadFailure)
  | settings (f : SettingsFailure)
  /-- A function without a name reached the catalog. -/
  | emptyIdentifier
  /-- Violations were recorded while they were forbidden. -/
  | strict (violations : List Violation)
  /-- Fields of a structure have wrong values. -/
  | fields (errors : List FieldError)
  | shape (f : ShapeFault)
  | encoding (f : Text.Utf8.Fault)
  | toml (f : Toml.Fault)
  /-- A number of a TOML document has so many digits, more than are converted. -/
  | oversized (digits : Nat)
  | os (e : OsError)
  /-- A text has no form in a TOML catalog. -/
  | unwritable
  /-- A target that only collects records cannot be closed. -/
  | notClosable
  /-- A target without a format cannot be closed. -/
  | noFormat
  /-- There is no target of this name. -/
  | unknownTarget (name : String)
deriving Repr

/-- The number of violations, the number of functions, and their names. -/
def strictMessage (violations : List Violation) : String :=
  let names := Text.nameSet (violations.map (·.identifier))
  toString violations.length ++ " validation error(s) in " ++
    toString names.length ++ " function(s): " ++ String.intercalate ", " names

/-- The wording of a failure. -/
def Failure.message : Failure → String
  | .load f => f.message
  | .settings f => f.message
  | .emptyIdentifier => "cannot derive an API category from an empty identifier"
  | .strict violations => strictMessage violations
  | .fields errors =>
      String.intercalate "\n" (errors.map FieldError.describe)
  | .shape f => f.message
  | .encoding f => f.message
  | .toml f => f.message
  | .oversized digits =>
      "Exceeds the limit (" ++ toString Toml.digitLimit ++ " digits) for " ++
        "integer string conversion: value has " ++ toString digits ++
        " digits; use sys.set_int_max_str_digits() to increase the limit"
  | .os e => e.message
  | .unwritable => "list index out of range"
  | .notClosable => "'RecordCollector' object has no attribute 'close'"
  | .noFormat => ""
  | .unknownTarget name => Text.quoted name

end ApiCatalog
