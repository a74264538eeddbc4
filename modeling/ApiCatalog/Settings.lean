import ApiCatalog.Field
import ApiCatalog.Shape
import ApiCatalog.Text.Order

/-!
# Settings

The options of one analysis. They are built from plain values: those a settings
file or a caller gives, and over them those that are given explicitly. A list of
ignored names may be written as one text with commas, and a source suffix with
or without its dot.

Two shapes of the suffixes are beyond a located error: something that has no
items, and an item that is no text. They stop the reading at once.
-/

namespace ApiCatalog

/-- What becomes of `unsafe fn` declarations. -/
inductive UnsafePolicy where
  /-- They are left out like any other violation. -/
  | exclude
  /-- They are reported and kept. -/
  | warn
deriving DecidableEq, Repr

namespace UnsafePolicy

/-- The word for a policy. -/
def name : UnsafePolicy → String
  | .exclude => "exclude"
  | .warn => "warn"

/-- Every policy with its word. -/
def names : List (String × UnsafePolicy) :=
  [("exclude", .exclude), ("warn", .warn)]

end UnsafePolicy

/-- The options of one analysis. -/
structure Settings where
  /-- The directory that holds the sources. -/
  root : Path := .current
  /-- The suffixes of source files. -/
  extensions : List String := [".rs"]
  /-- The functions to leave out, strictly increasing. -/
  ignored : List String := []
  /-- The ABI that every function must have. -/
  foreignAbi : String := "C"
  inlineMarker : String := "inline"
  noPanicMarker : String := "no_panic"
  unsafePolicy : UnsafePolicy := .exclude
  /-- Whether violations are written to the diagnostic stream. -/
  reportDiagnostics : Bool := false
  /-- Whether a violation fails the analysis. -/
  strict : Bool := false
deriving DecidableEq, Repr

/-- The names in a text with commas, without blanks around them; empty ones do
not count. -/
def ignoreList (s : String) : List String :=
  let names := (Text.splitAt ',' s.toList).map Text.trim
  Text.nameSet ((names.filter fun name => !name.isEmpty).map String.ofList)

namespace Settings

/-- A suffix with its dot. -/
def dotted (suffix : String) : String :=
  if suffix.toList.head? == some '.' then suffix else "." ++ suffix

/-- An item of a list of suffixes. -/
def suffixItem : Value → Except ShapeFault String
  | .text s => .ok (dotted s)
  | v => .error (.notSuffix v.fullKind)

/-- The suffixes that a value gives; one text is one suffix. -/
def suffixes : Value → Except ShapeFault (List String)
  | .text s => .ok [dotted s]
  | v => do
      let items ← v.items?
      items.mapM suffixItem

/-- At least one suffix. -/
def someSuffix : List String → Checked (List String)
  | [] => .refuse .noSuffix (.list [])
  | names => .ok names

/-- Names as one text, as `null` for none, or as a list. -/
def names : Value → Checked (List String)
  | .null => .ok []
  | .text s => .ok (ignoreList s)
  | .list items => Text.nameSet <$> Field.itemsFrom Field.text 0 items
  | v => .refuse .notSet v

/-- A path, written or read. -/
def path : Value → Checked Path
  | .text s => .ok (.parse s)
  | .path p => .ok p
  | v => .refuse .notPath v

/-- Checks every field; the suffixes have been read before. -/
def check (fields : List (String × Value)) (given : Option (List String)) :
    Checked Settings :=
  Settings.mk
    <$> Field.optional fields "root" .current path
    <*> (match given with
        | none => .ok [".rs"]
        | some names => (someSuffix names).under (.field "extensions"))
    <*> Field.optional fields "ignored" [] names
    <*> Field.optional fields "foreign_abi" "C" Field.text
    <*> Field.optional fields "inline_marker" "inline" Field.text
    <*> Field.optional fields "no_panic_marker" "no_panic" Field.text
    <*> Field.optional fields "unsafe_policy" .exclude
      (Field.choice UnsafePolicy.names)
    <*> Field.optional fields "report_diagnostics" false Field.bool
    <*> Field.optional fields "strict" false Field.bool

/-- Whether a field is given: `null` stands for one that is not. -/
def isGiven : String × Value → Bool
  | (_, .null) => false
  | _ => true

/-- Values with others over them. -/
def merge (values overrides : List (String × Value)) : List (String × Value) :=
  overrides.filter isGiven ++ values

/-- Builds settings from values and what is given over them. -/
def build (values overrides : List (String × Value)) :
    Except ShapeFault (Checked Settings) := do
  let fields := merge values overrides
  let given ← (fields.lookup "extensions").mapM suffixes
  return check fields given

/-- The plain values of settings. -/
def toFields (s : Settings) : List (String × Value) :=
  [("root", .text s.root.text),
    ("extensions", .list (s.extensions.map .text)),
    ("ignored", .list (s.ignored.map .text)),
    ("foreign_abi", .text s.foreignAbi),
    ("inline_marker", .text s.inlineMarker),
    ("no_panic_marker", .text s.noPanicMarker),
    ("unsafe_policy", .text s.unsafePolicy.name),
    ("report_diagnostics", .bool s.reportDiagnostics),
    ("strict", .bool s.strict)]

end Settings
end ApiCatalog
