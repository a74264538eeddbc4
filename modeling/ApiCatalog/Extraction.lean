import ApiCatalog.Candidate
import ApiCatalog.Event
import ApiCatalog.Failure
import ApiCatalog.Tree

/-!
# Extraction

Public function declarations are read off the top level of a syntax tree.
Attributes stand in front of their item as siblings, with comments between them
as the author liked; they belong to the next sibling that is neither.

The texts of a file are decoded in the order in which they stand, so the first
text that is not UTF-8 is the one that is reported.
-/

namespace ApiCatalog

/-- A parsed source file. -/
structure SourceUnit where
  /-- The path of the file, relative to the root. -/
  path : String
  bytes : List UInt8
  tree : Node
deriving Repr

namespace Extraction

/-- A text of a source, or why it cannot be had. -/
abbrev Reading (α : Type) := Except Text.Utf8.Fault α

/-! ## Items and their attributes -/

/-- An item with the attributes in front of it. -/
structure Item where
  node : Node
  attributes : List Node
deriving Repr

/-- The items among some siblings, each with the attributes since the item before
it, and the attributes that no item follows. `pending` are the attributes read so
far. -/
def attach (pending : List Node) : List Node → List Item × List Node
  | [] => ([], pending)
  | n :: rest =>
      if n.isAttribute then attach (pending ++ [n]) rest
      else if n.isComment then attach pending rest
      else
        let (items, trailing) := attach [] rest
        (⟨n, pending⟩ :: items, trailing)

/-- Whether a node is a function with a body. -/
def isFunction (n : Node) : Bool :=
  n.kind == "function_item"

/-! ## Types -/

/-- The number of places where two colons stand in a row, from the left. -/
def colonPairs : List Char → Nat
  | ':' :: ':' :: rest => colonPairs rest + 1
  | _ :: rest => colonPairs rest
  | [] => 0

/-- A type without parts. -/
def plainType (kind : TypeKind) (text : String) : TypeExpr :=
  { kind, text }

/-- The shape of a type that has no pointee, and its number of segments. -/
def shapeOf (kind : String) (children : List Node) (text : String) : TypeExpr :=
  if kind == "primitive_type" then plainType .primitive text
  else if kind == "type_identifier" then plainType .path text
  else if kind == "scoped_type_identifier" then
    { kind := .path, text, segments := colonPairs text.toList + 1 }
  else if kind == "array_type" then
    if children.any (·.field == some "length") then plainType .array text
    else plainType .slice text
  else if kind == "tuple_type" || kind == "unit_type" then plainType .tuple text
  else plainType .other text

/-- Whether a kind of node points to another type. -/
def isIndirect (kind : String) : Bool :=
  kind == "pointer_type" || kind == "reference_type"

mutual

/-- The type that a node stands for. -/
def typeOf (source : List UInt8) : Node → Reading TypeExpr
  | ⟨kind, start, stop, row, named, missing, hasError, field, children⟩ => do
      let node : Node :=
        ⟨kind, start, stop, row, named, missing, hasError, field, children⟩
      let text ← node.text source
      if isIndirect kind then
        let pointee ← pointeeAmong source children
        return {
          kind := if kind == "pointer_type" then .pointer else .reference
          text
          mutable := children.any (·.kind == "mutable_specifier")
          pointee }
      else return shapeOf kind children text

/-- The type that the first child in the part `type` stands for. -/
def pointeeAmong (source : List UInt8) : List Node → Reading (Option TypeExpr)
  | [] => .ok none
  | n :: rest =>
      if n.field == some "type" then some <$> typeOf source n
      else pointeeAmong source rest

end

/-- A type of which only the text matters. -/
def otherType (source : List UInt8) (n : Node) : Reading TypeExpr :=
  (n.text source).map (plainType .other)

/-! ## The parts of a declaration -/

/-- Whether the first visibility of a declaration is exactly `pub`. -/
def isPublic (source : List UInt8) (n : Node) : Reading Bool :=
  match n.children.find? (·.kind == "visibility_modifier") with
  | none => .ok false
  | some visibility => (visibility.text source).map (· == "pub")

/-- The contents of a string literal: a raw one loses its `r` and its hashes,
then the quotes at both ends go. -/
def literalValue (literal : String) : String :=
  let cs :=
    match literal.toList with
    | 'r' :: rest => Text.strip (· == '#') rest
    | cs => cs
  if 2 ≤ cs.length then String.ofList (cs.drop 1).dropLast else String.ofList cs

/-- The string literals of the `extern` modifiers of a declaration. -/
def linkageNodes (modifiers : List Node) : List Node :=
  (modifiers.filter (·.kind == "extern_modifier")).flatMap fun modifier =>
    modifier.children.filter fun part =>
      part.kind == "string_literal" || part.kind == "raw_string_literal"

/-- The modifiers of a declaration. -/
def modifiersOf (n : Node) : List Node :=
  (n.children.filter (·.kind == "function_modifiers")).flatMap (·.children)

/-- The qualifiers among some modifiers. -/
def qualifiersOf (modifiers : List Node) : Qualifiers :=
  let has := fun (kind : String) => modifiers.any (·.kind == kind)
  { isConst := has "const", isAsync := has "async", isUnsafe := has "unsafe" }

/-- The ABI of a declaration: the last string counts. -/
def linkageOf (source : List UInt8) (modifiers : List Node) :
    Reading (Option String) := do
  let texts ← (linkageNodes modifiers).mapM (·.text source)
  return texts.getLast?.map literalValue

/-- The sorts of generic parameters. -/
inductive GenericSort where
  | type
  | lifetime
  | const
deriving DecidableEq, Repr

/-- The sort of a node in a list of generic parameters. A bounded parameter is a
lifetime if what is bounded is one. -/
def genericSort? (n : Node) : Option GenericSort :=
  if n.kind == "lifetime" || n.kind == "lifetime_parameter" then some .lifetime
  else if n.kind == "const_parameter" then some .const
  else if n.kind == "type_identifier" || n.kind == "type_parameter" ||
      n.kind == "constrained_type_parameter" ||
      n.kind == "optional_type_parameter" then
    match n.child? "left" with
    | some left =>
        if left.kind == "lifetime" then some .lifetime else some .type
    | none => some .type
  else none

/-- The generic parameters of a list, counted by sort. -/
def countGenerics (source : List UInt8) (n : Node) : Reading GenericCounts := do
  let text ← n.text source
  let sorts := n.namedChildren.filterMap genericSort?
  return {
    typeParams := sorts.count .type
    lifetimeParams := sorts.count .lifetime
    constParams := sorts.count .const
    text }

/-- The generic parameters of a declaration. -/
def genericsOf (source : List UInt8) (n : Node) : Reading GenericCounts :=
  match n.child? "type_parameters" with
  | none => .ok {}
  | some list => countGenerics source list

/-- The parameters of a declaration: the types in order, and the text of the
variadic one. -/
structure Params where
  types : List TypeExpr := []
  variadic : Option String := none

/-- The type of a parameter that is not variadic. -/
def paramType (source : List UInt8) (n : Node) : Reading TypeExpr :=
  if n.kind == "parameter" then
    match n.child? "type" with
    | some type => typeOf source type
    | none => otherType source n
  else if n.kind == "self_parameter" then otherType source n
  else typeOf source n

/-- Adds a node of the parameter list to the parameters in front of it. -/
def addParam (source : List UInt8) (params : Params) (n : Node) :
    Reading Params :=
  if n.kind == "variadic_parameter" then do
    let text ← n.text source
    return { params with variadic := some text }
  else if n.isAttribute || n.isComment then return params
  else do
    let type ← paramType source n
    return { params with types := params.types ++ [type] }

/-- The parameters of a declaration. -/
def paramsOf (source : List UInt8) (n : Node) : Reading Params :=
  match n.child? "parameters" with
  | none => .ok {}
  | some list => list.namedChildren.foldlM (addParam source) {}

/-- The name of a declaration; it is empty if the tree has none. -/
def nameOf (source : List UInt8) (n : Node) : Reading String :=
  match n.child? "name" with
  | none => .ok ""
  | some name => name.text source

/-- The result type of a declaration. -/
def retOf (source : List UInt8) (n : Node) : Reading (Option TypeExpr) :=
  (n.child? "return_type").mapM (typeOf source)

/-- The candidate for a declaration with given attributes. -/
def candidateOf (unit : SourceUnit) (attrs : List String) (n : Node) :
    Reading Candidate := do
  let ident ← nameOf unit.bytes n
  let linkage ← linkageOf unit.bytes (modifiersOf n)
  let generics ← genericsOf unit.bytes n
  let params ← paramsOf unit.bytes n
  let ret ← retOf unit.bytes n
  return {
    ident, linkage, attrs, generics, ret
    qualifiers := qualifiersOf (modifiersOf n)
    variadic := params.variadic
    params := params.types
    file := unit.path
    line := n.row + 1 }

/-! ## Whole files -/

/-- The candidate of an item, if it is a public function. -/
def readItem (unit : SourceUnit) (item : Item) : Reading (Option Candidate) := do
  let attrs ← item.attributes.mapM (·.text unit.bytes)
  if isFunction item.node then
    if ← isPublic unit.bytes item.node then
      some <$> candidateOf unit attrs item.node
    else return none
  else return none

/-- The candidate of an item, unless its name is ignored. -/
def extractItem (ignored : List String) (unit : SourceUnit) (item : Item) :
    Run Text.Utf8.Fault (List Candidate) := do
  match ← Run.ofExcept (readItem unit item) with
  | none => return []
  | some c =>
      if ignored.contains c.ident then
        Run.log .debug ("Ignoring " ++ c.ident ++ " (" ++ unit.path ++ ")")
        return []
      else return [c]

/-- The candidates of some items, in order. -/
def extractItems (ignored : List String) (unit : SourceUnit) :
    List Item → Run Text.Utf8.Fault (List Candidate)
  | [] => return []
  | item :: rest => do
      let found ← extractItem ignored unit item
      let more ← extractItems ignored unit rest
      return found ++ more

/-- The candidates of a source, in the order of their declarations. -/
def extract (ignored : List String) (unit : SourceUnit) :
    Run Text.Utf8.Fault (List Candidate) := do
  let (items, trailing) := attach [] unit.tree.children
  let candidates ← extractItems ignored unit items
  let _ ← Run.ofExcept (trailing.mapM (·.text unit.bytes))
  return candidates

/-- The candidates of some sources, one source after the other. -/
def extractUnits (ignored : List String) :
    List SourceUnit → Run Text.Utf8.Fault (List Candidate)
  | [] => return []
  | unit :: rest => do
      let found ← extract ignored unit
      let more ← extractUnits ignored rest
      return found ++ more

/-- The candidates of a source tree. -/
def extractAll (ignored : List String) (units : List SourceUnit) :
    Run Text.Utf8.Fault (List Candidate) := do
  let candidates ← extractUnits ignored units
  Run.log .info ("Extracted " ++ toString candidates.length ++
    " public function candidates")
  return candidates

end Extraction
end ApiCatalog
