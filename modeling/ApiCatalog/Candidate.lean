import ApiCatalog.TypeExpr

/-!
# Candidates

A public function declaration as it was found, before any rule looks at it.
-/

namespace ApiCatalog

/-- The qualifiers in front of `fn`. -/
structure Qualifiers where
  isConst : Bool := false
  isAsync : Bool := false
  isUnsafe : Bool := false
deriving DecidableEq, Repr

/-- The generic parameters of a function, counted by sort. -/
structure GenericCounts where
  typeParams : Int := 0
  lifetimeParams : Int := 0
  constParams : Int := 0
  /-- The whole list as it was written. -/
  text : String := ""
deriving DecidableEq, Repr

/-- A public function declaration. -/
structure Candidate where
  ident : String
  /-- The ABI string of `extern`, if one was written. -/
  linkage : Option String := none
  qualifiers : Qualifiers := {}
  /-- The texts of the attributes above the function. -/
  attrs : List String := []
  generics : GenericCounts := {}
  /-- The text of the variadic parameter. -/
  variadic : Option String := none
  params : List TypeExpr := []
  ret : Option TypeExpr := none
  /-- The file that holds the function, relative to the root. -/
  file : String := ""
  /-- The line of the function, counted from one. -/
  line : Int := 0
deriving Repr

namespace Qualifiers

/-- Reads qualifiers from their fields. -/
def ofFields (fields : List (String × Value)) : Checked Qualifiers :=
  Qualifiers.mk
    <$> Field.optional fields "is_const" false Field.bool
    <*> Field.optional fields "is_async" false Field.bool
    <*> Field.optional fields "is_unsafe" false Field.bool

/-- The fields of qualifiers. -/
def toValue (q : Qualifiers) : Value :=
  .table [("is_const", .bool q.isConst), ("is_async", .bool q.isAsync),
    ("is_unsafe", .bool q.isUnsafe)]

end Qualifiers

namespace GenericCounts

/-- Reads counts from their fields. -/
def ofFields (fields : List (String × Value)) : Checked GenericCounts :=
  GenericCounts.mk
    <$> Field.optional fields "type_params" 0 Field.int
    <*> Field.optional fields "lifetime_params" 0 Field.int
    <*> Field.optional fields "const_params" 0 Field.int
    <*> Field.optional fields "text" "" Field.text

/-- The fields of counts. -/
def toValue (g : GenericCounts) : Value :=
  .table [("type_params", .int g.typeParams),
    ("lifetime_params", .int g.lifetimeParams),
    ("const_params", .int g.constParams), ("text", .text g.text)]

end GenericCounts

/-- A text or `null`. -/
def Value.ofText? : Option String → Value
  | none => .null
  | some s => .text s

namespace Candidate

/-- Reads a candidate from its fields. -/
def ofFields (fields : List (String × Value)) : Checked Candidate :=
  Candidate.mk
    <$> Field.required fields "ident" Field.text
    <*> Field.optional fields "linkage" none (Field.nullable Field.text)
    <*> Field.optional fields "qualifiers" {}
      (Field.table "Qualifiers" Qualifiers.ofFields)
    <*> Field.optional fields "attrs" [] (Field.list Field.text)
    <*> Field.optional fields "generics" {}
      (Field.table "GenericCounts" GenericCounts.ofFields)
    <*> Field.optional fields "variadic" none (Field.nullable Field.text)
    <*> Field.optional fields "params" [] (Field.list TypeExpr.ofValue)
    <*> Field.optional fields "ret" none (Field.nullable TypeExpr.ofValue)
    <*> Field.optional fields "file" "" Field.text
    <*> Field.optional fields "line" 0 Field.int

/-- The fields of a candidate. -/
def toFields (c : Candidate) : List (String × Value) :=
  [("ident", .text c.ident), ("linkage", .ofText? c.linkage),
    ("qualifiers", c.qualifiers.toValue),
    ("attrs", .list (c.attrs.map .text)),
    ("generics", c.generics.toValue), ("variadic", .ofText? c.variadic),
    ("params", .list (c.params.map TypeExpr.toValue)),
    ("ret",
      match c.ret with
      | none => .null
      | some t => t.toValue),
    ("file", .text c.file), ("line", .int c.line)]

end Candidate
end ApiCatalog
