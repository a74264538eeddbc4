import ApiCatalog.Candidate
import ApiCatalog.Text.Uppercase

/-!
# Signatures and records

A signature is a function that passed every rule; a record is what a generator
of benchmarks or tests gets for it, with a category tag and names for the
arguments.
-/

namespace ApiCatalog

/-- A function that passed every rule. -/
structure Signature where
  ident : String
  /-- The category tag. -/
  apiKind : String
  argTypes : List String := []
  retType : Option String := none
deriving DecidableEq, Repr

/-- One entry of a catalog, as generators get it. -/
structure Record where
  id : String
  apiKind : String
  argTypes : List String := []
  argNames : List String := []
  retType : Option String := none
deriving DecidableEq, Repr

/-- The category tag of a function: its name with the first character in upper
case. The empty name has none. -/
def apiKind? (ident : String) : Option String :=
  match ident.toList with
  | [] => none
  | c :: rest => some (String.ofList (Text.uppercase c ++ rest))

/-- The name of the argument at a place. -/
def argName (index : Nat) : String :=
  "x" ++ toString index

/-- Names for a number of arguments: `x0`, `x1`, and so on. -/
def argNames (count : Nat) : List String :=
  (List.range count).map argName

namespace Signature

/-- Reads a signature from its fields. -/
def ofFields (fields : List (String × Value)) : Checked Signature :=
  Signature.mk
    <$> Field.required fields "ident" Field.text
    <*> Field.required fields "api_kind" Field.text
    <*> Field.optional fields "arg_tys" [] (Field.list Field.text)
    <*> Field.optional fields "ret_ty" none (Field.nullable Field.text)

/-- The fields of a signature. -/
def toFields (s : Signature) : List (String × Value) :=
  [("ident", .text s.ident), ("api_kind", .text s.apiKind),
    ("arg_tys", .list (s.argTypes.map .text)),
    ("ret_ty", .ofText? s.retType)]

/-- The record of a signature. -/
def toRecord (s : Signature) : Record :=
  { id := s.ident
    apiKind := s.apiKind
    argTypes := s.argTypes
    argNames := argNames s.argTypes.length
    retType := s.retType }

end Signature

namespace Record

/-- Reads a record from its fields. -/
def ofFields (fields : List (String × Value)) : Checked Record :=
  Record.mk
    <$> Field.required fields "id" Field.text
    <*> Field.required fields "api_kind" Field.text
    <*> Field.optional fields "arg_tys" [] (Field.list Field.text)
    <*> Field.optional fields "arg_ids" [] (Field.list Field.text)
    <*> Field.optional fields "ret_ty" none (Field.nullable Field.text)

/-- The fields of a record. -/
def toFields (r : Record) : List (String × Value) :=
  [("id", .text r.id), ("api_kind", .text r.apiKind),
    ("arg_tys", .list (r.argTypes.map .text)),
    ("arg_ids", .list (r.argNames.map .text)),
    ("ret_ty", .ofText? r.retType)]

end Record
end ApiCatalog
