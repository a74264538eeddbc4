import ApiCatalog.Rust.Cursor

/-!
# Types and patterns of Rust

Types are read into nodes as far as a catalog cares: names and paths, pointers
and references with what they point to, arrays, slices and tuples. All other
types only have to be passed over, so their arguments are skipped as groups.

The prefixes `*` and `&` bind tighter than the `+` between bounds.
-/

namespace ApiCatalog.Rust.Parser

/-- The names that are types of the language itself. -/
def primitiveNames : List String :=
  ["u8", "i8", "u16", "i16", "u32", "i32", "u64", "i64", "u128", "i128",
    "isize", "usize", "f32", "f64", "bool", "str", "char"]

/-! ## Arguments in angle brackets -/

/-- Skips to the bracket that closes a list of arguments; `depth` lists inside it
are open. -/
def closeAngles : Nat → Nat → Parser Unit
  | 0, _ => refuse
  | fuel + 1, depth => do
      if ← acceptMark "<" then closeAngles fuel (depth + 1)
      else if ← acceptMark ">" then
        if depth == 0 then return () else closeAngles fuel (depth - 1)
      else if ← atMark ";" then refuse
      else
        tokenTree
        closeAngles fuel depth

/-- Skips a list of arguments, which is not empty. -/
def angleGroup : Parser Unit := do
  let _ ← mark "<"
  if ← atMark ">" then refuse
  else closeAngles (← fuel) 0

/-! ## Paths -/

/-- The words that only stand in front of other names. -/
def isPathRoot (name : String) : Bool :=
  name == "self" || name == "super" || name == "crate"

/-- The kind of a path that ends in a plain name. -/
def nameKind (inPath : Bool) (name : String) : String :=
  if inPath then "scoped_type_identifier"
  else if primitiveNames.contains name then "primitive_type"
  else "type_identifier"

/-- Skips the group after the exclamation mark of a macro call. -/
def anyGroup : Parser Unit := do
  group (← peek).text

/-- Reads `-> T` if it is there. -/
def skipResult (type : Parser Node) : Parser Unit := do
  if ← acceptMark "->" then
    let _ ← type

/-- Reads the names of a path and gives the kind of the type. Arguments after
`::` need another name after them. -/
def pathNames (type : Parser Node) : Nat → Bool → Parser String
  | 0, _ => refuse
  | fuel + 1, inPath => do
      let name ← word
      if ← atMark "<" then
        angleGroup
        if ← acceptMark "::" then pathNames type fuel true
        else return "generic_type"
      else if ← acceptMark "::" then
        if ← atMark "<" then
          angleGroup
          let _ ← mark "::"
          pathNames type fuel true
        else pathNames type fuel true
      else if ← acceptMark "!" then
        anyGroup
        return "macro_invocation"
      else if ← atMark "(" then
        group "("
        skipResult type
        return "function_type"
      else if !inPath && isPathRoot name.text then refuse
      else return nameKind inPath name.text

/-- Reads a path and gives the kind of the type. -/
def path (type : Parser Node) : Parser String := do
  if ← acceptMark "::" then pathNames type (← fuel) true
  else if ← atMark "<" then
    angleGroup
    let _ ← mark "::"
    pathNames type (← fuel) true
  else pathNames type (← fuel) false

/-! ## Types -/

/-- Reads `mut` if it is there. -/
def mutability : Parser (List Node) := do
  if ← atWord "mut" then
    let t ← next
    return [leaf "mutable_specifier" t true]
  else return []

/-- Skips a lifetime if one is in front. -/
def skipLifetime : Parser Unit := do
  let _ ← accept (·.kind == .lifetime)

/-- Reads a raw pointer type. -/
def pointerType (type : Parser Node) : Parser (String × List Node) := do
  let _ ← mark "*"
  let specifier ← mutability
  if specifier.isEmpty then
    let _ ← keyword "const"
  let pointee ← type
  return ("pointer_type", specifier ++ [part "type" pointee])

/-- Reads a reference type. -/
def referenceType (type : Parser Node) : Parser (String × List Node) := do
  let _ ← mark "&"
  skipLifetime
  let specifier ← mutability
  let pointee ← type
  return ("reference_type", specifier ++ [part "type" pointee])

/-- Reads the length of an array. -/
def arrayLength : Parser Node :=
  spanned do
    tokenTree
    skipWhile fun t => !t.isMark "]"
    return ("length", [])

/-- Reads an array or slice type. -/
def arrayType (type : Parser Node) : Parser (String × List Node) := do
  let _ ← mark "["
  let element ← type
  let length ←
    if ← acceptMark ";" then do
      let length ← arrayLength
      pure [part "length" length]
    else pure []
  let _ ← mark "]"
  return ("array_type", part "element" element :: length)

/-- Reads a type in parentheses. -/
def tupleType (type : Parser Node) : Parser (String × List Node) := do
  let _ ← mark "("
  if ← acceptMark ")" then return ("unit_type", [])
  else
    let types ← listUntil ")" type (← fuel)
    return ("tuple_type", types)

/-- Whether a token is a modifier of a function. -/
def isModifier (t : Token) : Bool :=
  t.kind == .word &&
    ["const", "async", "unsafe", "default", "extern"].contains t.text

/-- Skips a modifier of a function, with the string after `extern`. -/
def skipModifier : Parser Unit := do
  let t ← next
  if t.isWord "extern" then
    let _ ← accept (·.kind == .string)

/-- Reads a function pointer type. -/
def functionType (type : Parser Node) : Parser (String × List Node) := do
  let _ ← manyWhile isModifier skipModifier (← fuel)
  let _ ← keyword "fn"
  group "("
  skipResult type
  return ("function_type", [])

/-- Skips one bound: a lifetime, or a trait that may be relaxed. -/
def bound (type : Parser Node) : Parser Unit := do
  if ← accept (·.kind == .lifetime) then return ()
  else
    let _ ← acceptMark "?"
    let _ ← type

/-- Reads a type with more bounds after it. -/
def withBounds (simple : Parser Node) : Parser Node := do
  let type ← simple
  let more ← manyWhile (·.isMark "+") (next *> bound simple) (← fuel)
  if more.isEmpty then return type
  else return { type with kind := "bounded_type", stop := (← get).stop }

/-- Whether a token starts a function pointer type. -/
def startsFunction (t : Token) : Bool :=
  t.isWord "fn" || isModifier t

/-- Reads a type without bounds after it. -/
def simpleType : Nat → Parser Node
  | 0 => refuse
  | fuel + 1 =>
      spanned do
        let simple := simpleType fuel
        let t ← peek
        if t.isMark "*" then pointerType simple
        else if t.isMark "&" then referenceType simple
        else if t.isMark "[" then arrayType (withBounds simple)
        else if t.isMark "(" then tupleType (withBounds simple)
        else if t.isMark "!" then
          let _ ← next
          return ("never_type", [])
        else if startsFunction t then functionType simple
        else if t.isWord "for" then
          let _ ← next
          angleGroup
          let _ ← simple
          return ("function_type", [])
        else if t.isWord "impl" || t.isWord "dyn" then
          let _ ← next
          bound simple
          return ("trait_type", [])
        else
          let kind ← path simple
          return (kind, [])

/-- Reads a type. -/
def type : Parser Node := do
  withBounds (simpleType (← fuel))

/-! ## Patterns -/

/-- Whether a token is a literal. -/
def isLiteral (t : Token) : Bool :=
  t.kind == .number || t.kind == .string || t.kind == .rawString ||
    t.kind == .char

/-- Skips the further names of a path in a pattern. -/
def patternNames : Nat → Parser Unit
  | 0 => refuse
  | fuel + 1 => do
      if ← acceptMark "::" then
        if ← atMark "<" then angleGroup
        else
          let _ ← word
        patternNames fuel

/-- Skips a pattern. -/
def pattern : Nat → Parser Unit
  | 0 => refuse
  | fuel + 1 => do
      let t ← peek
      if t.isMark "&" then
        let _ ← next
        let _ ← acceptWord "mut"
        if ← atWord "self" then refuse
        pattern fuel
      else if t.isWord "ref" || t.isWord "mut" then
        let _ ← next
        pattern fuel
      else if t.isMark "(" || t.isMark "[" then group t.text
      else if isLiteral t then
        let _ ← next
      else
        let _ ← word
        patternNames (fuel + 1)
        if ← atMark "(" then group "("
        else if ← atMark "\x7b" then group "\x7b"
        else if ← acceptMark "@" then pattern fuel

end ApiCatalog.Rust.Parser
