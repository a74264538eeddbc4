import ApiCatalog.Field

/-!
# Types of parameters and results

A type as it was written: its shape, its text, and for pointers and references
what they point to. The catalog admits the fixed-width numbers, and raw pointers
to them; one level of indirection is enough for a C interface.
-/

namespace ApiCatalog

/-- The shape of a written type. -/
inductive TypeKind where
  /-- A built-in name: `i32`, `f64`, `bool`. -/
  | primitive
  /-- Any other name: `Foo`, `core::ffi::c_int`. -/
  | path
  /-- `*const T` or `*mut T`. -/
  | pointer
  /-- `&T` or `&mut T`. -/
  | reference
  /-- `[T; N]`. -/
  | array
  /-- `[T]`. -/
  | slice
  /-- Anything in parentheses. -/
  | tuple
  /-- Function pointers, trait types, receivers and the like. -/
  | other
deriving DecidableEq, Repr

/-- The name of every shape, in the order messages list them. -/
def TypeKind.names : List (String × TypeKind) :=
  [("primitive", .primitive), ("path", .path), ("pointer", .pointer),
    ("reference", .reference), ("array", .array), ("slice", .slice),
    ("tuple", .tuple), ("other", .other)]

/-- The name of a shape. -/
def TypeKind.name : TypeKind → String
  | .primitive => "primitive"
  | .path => "path"
  | .pointer => "pointer"
  | .reference => "reference"
  | .array => "array"
  | .slice => "slice"
  | .tuple => "tuple"
  | .other => "other"

/-- A type as it was written. -/
structure TypeExpr where
  kind : TypeKind
  /-- The text with runs of blanks collapsed. -/
  text : String
  /-- Whether a pointer or reference is `mut`. -/
  mutable : Bool := false
  /-- What a pointer or reference points to. -/
  pointee : Option TypeExpr := none
  /-- The number of segments of a path. -/
  segments : Int := 1
deriving Repr

namespace TypeExpr

/-- The fixed-width numbers. -/
def numericNames : List String :=
  ["i8", "i16", "i32", "i64", "isize", "u8", "u16", "u32", "u64", "usize",
    "f32", "f64"]

/-- Whether a type is a fixed-width number written as one name. -/
def isNumeric (t : TypeExpr) : Bool :=
  (t.kind == .primitive || t.kind == .path) && t.segments == 1 &&
    numericNames.contains t.text

/-- Whether a type may stand in the signature of a catalogued function: a
fixed-width number, or a raw pointer to one. -/
def isAdmitted (t : TypeExpr) : Bool :=
  if t.kind == .pointer then
    match t.pointee with
    | some inner => inner.isNumeric
    | none => false
  else t.isNumeric

mutual

/-- Reads a type from its fields. -/
def ofValue : Value → Checked TypeExpr
  | .table fields =>
      TypeExpr.mk
        <$> Field.required fields "kind" (Field.choice TypeKind.names)
        <*> Field.required fields "text" Field.text
        <*> Field.optional fields "mutable" false Field.bool
        <*> pointeeOf fields
        <*> Field.optional fields "segments" 1 Field.int
  | v => .refuse (.notTable "TypeNode") v

/-- Reads the `pointee` among the fields of a type. -/
def pointeeOf : List (String × Value) → Checked (Option TypeExpr)
  | [] => .ok none
  | (name, v) :: rest =>
      if name == "pointee" then
        match v with
        | .null => .ok none
        | v => (some <$> ofValue v).under (.field "pointee")
      else pointeeOf rest

end

/-- The fields of a type. -/
def toValue : TypeExpr → Value
  | ⟨kind, text, mutable, pointee, segments⟩ =>
      .table [("kind", .text kind.name), ("text", .text text),
        ("mutable", .bool mutable),
        ("pointee",
          match pointee with
          | none => .null
          | some inner => inner.toValue),
        ("segments", .int segments)]

end TypeExpr
end ApiCatalog
