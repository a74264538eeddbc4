import ApiCatalog.Value

/-!
# Faults of shape

A wrong value in a field is reported with its place, and the other fields are
still looked at. A value of a shape that cannot even be gone through stops the
reading at once; these are the faults for that.
-/

namespace ApiCatalog

/-- A value of a shape that no located error describes. -/
inductive ShapeFault where
  /-- Items were expected of a value of this kind. -/
  | notIterable (kind : String)
  /-- An item of this kind cannot be a suffix. -/
  | notSuffix (kind : String)
  /-- A value of this kind cannot be a path. -/
  | notPathLike (kind : String)
  /-- An entry of this kind has no fields for a record. -/
  | notFields (kind : String)
  /-- An operation has an argument of this name, and it was given once more. -/
  | givenTwice (operation name : String)
deriving DecidableEq, Repr

/-- The wording of a fault of shape. -/
def ShapeFault.message : ShapeFault → String
  | .notIterable kind => "'" ++ kind ++ "' object is not iterable"
  | .notSuffix kind => "'" ++ kind ++ "' object has no attribute 'startswith'"
  | .notPathLike kind =>
      "expected str, bytes or os.PathLike object, not " ++ kind
  | .notFields kind =>
      "libm_analyze.models.signature.CatalogRecord() argument after ** must " ++
        "be a mapping, not " ++ kind
  | .givenTwice operation name =>
      operation ++ "() got multiple values for argument '" ++ name ++ "'"

/-- The items of a value: of a text its characters, of a table its keys. -/
def Value.items? : Value → Except ShapeFault (List Value)
  | .list items => .ok items
  | .text s => .ok (s.toList.map fun c => .text (String.ofList [c]))
  | .table fields => .ok (fields.map fun field => .text field.1)
  | v => .error (.notIterable v.fullKind)

end ApiCatalog
