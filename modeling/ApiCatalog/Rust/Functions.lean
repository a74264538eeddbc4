import ApiCatalog.Rust.Types

/-!
# Function declarations of Rust

The parts of a function item that a catalog looks at: visibility, modifiers,
name, generic parameters, parameters and result. The body is one group.
-/

namespace ApiCatalog.Rust.Parser

/-- Skips what may follow the path of an attribute: a value, or a group. -/
def attributeInput : Parser Unit := do
  if ← acceptMark "=" then
    tokenTree
    skipWhile fun t => !t.isMark "]"
  else if ← at? opensGroup then tokenTree

/-- Reads an attribute `#[…]` or `#![…]`. -/
def attributeItem : Parser Node :=
  spanned do
    let _ ← mark "#"
    let inner ← acceptMark "!"
    let _ ← mark "["
    let _ ← acceptMark "::"
    let _ ← word
    patternNames (← fuel)
    attributeInput
    let _ ← mark "]"
    return (if inner then "inner_attribute_item" else "attribute_item", [])

/-! ## Visibility and modifiers -/

/-- Whether tokens go on with the scope of a restricted visibility. -/
def startsScope : List Token → Bool
  | t :: u :: _ =>
      t.isMark "(" && u.kind == .word &&
        ["crate", "self", "super", "in"].contains u.text
  | _ => false

/-- Whether tokens start with a visibility. -/
def startsVisibility : List Token → Bool
  | t :: u :: _ => t.isWord "pub" || (t.isWord "crate" && !u.isMark "::")
  | [t] => t.isWord "pub"
  | [] => false

/-- Reads a visibility. -/
def visibility : Parser Node :=
  spanned do
    let t ← next
    if t.isWord "pub" && startsScope (← ahead) then group "("
    return ("visibility_modifier", [])

/-- Reads one modifier. -/
def modifier : Parser Node := do
  if ← atWord "extern" then
    spanned do
      let _ ← next
      if ← at? (·.kind == .string) then
        let t ← next
        return ("extern_modifier", [leaf "string_literal" t true])
      else return ("extern_modifier", [])
  else
    let t ← next
    return leaf t.text t false

/-- Reads the modifiers of a function, if there are some. -/
def modifiers : Parser (List Node) := do
  if ← at? isModifier then
    let all ← spanned do
      let found ← manyWhile isModifier modifier (← fuel)
      return ("function_modifiers", found)
    return [all]
  else return []

/-- Whether tokens are modifiers and then `fn`. -/
def startsFunctionItem : List Token → Bool
  | [] => false
  | t :: rest =>
      t.isWord "fn" ||
        (isModifier t &&
          match t.isWord "extern", rest with
          | true, u :: more =>
              if u.kind == .string then startsFunctionItem more
              else startsFunctionItem (u :: more)
          | _, rest => startsFunctionItem rest)

/-! ## Generic parameters -/

/-- Skips `: A + B` if it is there. -/
def skipBounds : Parser Unit := do
  if ← acceptMark ":" then
    let one := bound (simpleType (← fuel))
    one
    let _ ← manyWhile (·.isMark "+") (next *> one) (← fuel)

/-- Skips `= default` if it is there. -/
def skipDefault (p : Parser Unit) : Parser Unit := do
  if ← acceptMark "=" then p

/-- Reads one generic parameter. -/
def genericParam : Parser Node :=
  spanned do
    if ← accept (·.kind == .lifetime) then
      skipBounds
      return ("lifetime_parameter", [])
    else if ← acceptWord "const" then
      let _ ← word
      let _ ← mark ":"
      let _ ← type
      skipDefault do
        tokenTree
        skipWhile fun t => !t.isMark "," && !t.isMark ">"
      return ("const_parameter", [])
    else
      let _ ← word
      skipBounds
      skipDefault do
        let _ ← type
      return ("type_parameter", [])

/-- Reads a list of generic parameters, which is not empty. -/
def genericParams : Parser Node :=
  spanned do
    let _ ← mark "<"
    if ← atMark ">" then refuse
    let withAttributes : Parser Node := do
      let _ ← manyWhile (·.isMark "#") attributeItem (← fuel)
      genericParam
    let params ← listUntil ">" withAttributes (← fuel)
    return ("type_parameters", params)

/-! ## Parameters -/

/-- Reads `self` with what may stand in front of it. -/
def receiver : Parser Node :=
  spanned do
    let _ ← acceptMark "&"
    skipLifetime
    let _ ← mutability
    let _ ← keyword "self"
    if (← atMark "::") || (← atMark ":") then refuse
    return ("self_parameter", [])

/-- Reads a pattern with its type, or with the dots of a variadic parameter. -/
def patternParam : Parser Node :=
  spanned do
    pattern (← fuel)
    let _ ← mark ":"
    if ← acceptMark "..." then return ("variadic_parameter", [])
    else
      let t ← type
      return ("parameter", [part "type" t])

/-- Whether tokens start with a pattern and a colon. -/
def startsPattern (tokens : List Token) : Bool :=
  let trial : Parser Unit := do
    pattern (← fuel)
    let _ ← mark ":"
  match trial ⟨tokens, 0⟩ with
  | .ok _ => true
  | .error _ => false

/-- Reads one parameter without its attribute. -/
def bareParam : Parser Node := do
  match ← attempt receiver with
  | some node => return node
  | none =>
      let t ← peek
      if t.isMark "..." then
        return leaf "variadic_parameter" (← next) true
      else if startsPattern (← ahead) then patternParam
      else if t.isWord "mut" || t.isWord "ref" then refuse
      else if t.isWord "_" then
        return leaf "_" (← next) false
      else type

/-- Reads one parameter; one attribute may stand in front. -/
def param : Parser Node := do
  if ← atMark "#" then
    let _ ← attributeItem
  bareParam

/-- Reads the parameters of a function. -/
def params : Parser Node :=
  spanned do
    let _ ← mark "("
    if ← acceptMark "," then
      let _ ← mark ")"
      return ("parameters", [])
    else
      let found ← listUntil ")" param (← fuel)
      return ("parameters", found)

/-! ## Whole functions -/

/-- Skips the head of an item up to its body or its semicolon; `depth` lists in
angle brackets are open. -/
def skipHead : Nat → Nat → Parser Unit
  | 0, _ => refuse
  | fuel + 1, depth => do
      let t ← peek
      if depth == 0 && (t.isMark ";" || t.isMark "\x7b") then return ()
      else if t.isWord "pub" then refuse
      else
        tokenTree
        let depth :=
          if t.isMark "<" then depth + 1
          else if t.isMark ">" then depth - 1
          else depth
        skipHead fuel depth

/-- Reads the result of a function, if it has one. -/
def result : Parser (List Node) := do
  if ← acceptMark "->" then
    let t ← type
    return [part "return_type" t]
  else return []

/-- Reads a function after its visibility. -/
def function : Parser (String × List Node) := do
  let mods ← modifiers
  let _ ← keyword "fn"
  let name ← word
  let generics ←
    if ← atMark "<" then do
      let list ← genericParams
      pure [part "type_parameters" list]
    else pure []
  let list ← params
  let ret ← result
  if ← acceptWord "where" then skipHead (← fuel) 0
  let children :=
    mods ++ part "name" (leaf "identifier" name true) :: generics ++
      part "parameters" list :: ret
  if ← acceptMark ";" then return ("function_signature_item", children)
  else
    group "\x7b"
    return ("function_item", children)

end ApiCatalog.Rust.Parser
