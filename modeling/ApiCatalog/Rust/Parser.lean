import ApiCatalog.Rust.Functions
import ApiCatalog.Text.Utf8

/-!
# Rust sources

The top level of a source: functions are read into their parts, attributes are
kept as they are, and every other item is passed over as a whole. A source that
makes no sense gives a tree with an error node: on the line of the token where
reading stopped, or of an item that was left unfinished.
-/

namespace ApiCatalog.Rust.Parser

/-- Skips to a semicolon, and takes it. -/
def toSemicolon : Parser Unit := do
  skipWhile fun t => !t.isMark ";"
  let _ ← mark ";"

/-- Skips an item with a head, and then a body or a semicolon. -/
def headed : Parser Unit := do
  skipHead (← fuel) 0
  if ← acceptMark ";" then return ()
  else group "\x7b"

/-- Skips `NAME : …;` after a keyword. -/
def binding : Parser Unit := do
  let _ ← acceptWord "mut"
  let _ ← word
  let _ ← mark ":"
  toSemicolon

/-- Skips the path of a macro call, its exclamation mark and its arguments. -/
def macroCall : Parser Unit := do
  let _ ← acceptMark "::"
  let first ← word
  patternNames (← fuel)
  let _ ← mark "!"
  if first.isWord "macro_rules" then
    let _ ← accept (·.kind == .word)
  anyGroup

/-- Whether tokens start with a macro call. -/
def startsMacro (tokens : List Token) : Bool :=
  match macroCall ⟨tokens, 0⟩ with
  | .ok _ => true
  | .error _ => false

/-- Words that start an item with a name, a head and a body. -/
def isHeadWord (t : Token) : Bool :=
  t.kind == .word &&
    ["struct", "union", "enum", "trait", "mod"].contains t.text

/-- Whether a token can follow the name of an item. -/
def followsName (t : Token) : Bool :=
  t.isWord "where" ||
    (t.kind == .mark && ["<", "(", "\x7b", ";", ":", "="].contains t.text)

/-- Skips an item that starts with one of those words. -/
def named : Parser Unit := do
  let _ ← next
  let _ ← word
  if ← at? followsName then headed else refuse

/-- Skips an item after a modifier such as `unsafe`. -/
def modified (isPublic : Bool) : Parser Unit := do
  let _ ← acceptWord "default"
  let _ ← acceptWord "unsafe"
  let _ ← acceptWord "auto"
  if ← at? isHeadWord then named
  else if ← atWord "impl" then headed
  else if (← atWord "extern") && !isPublic then
    let _ ← next
    let _ ← accept (·.kind == .string)
    group "\x7b"
  else refuse

/-- Skips an item that is no function, after its visibility. -/
def otherItem (isPublic : Bool) : Parser Unit := do
  let t ← peek
  if t.isWord "const" || t.isWord "static" then
    let _ ← next
    binding
  else if t.isWord "type" then
    let _ ← next
    let _ ← word
    toSemicolon
  else if t.isWord "use" || (t.isWord "let" && !isPublic) then
    let _ ← next
    let _ ← tokenTree
    toSemicolon
  else if t.isWord "extern" && (← ahead).tail.head?.any (·.isWord "crate") then
    toSemicolon
  else if !isPublic && startsMacro (← ahead) then macroCall
  else if t.isWord "unsafe" && !isPublic &&
      (← ahead).tail.head?.any (·.isMark "\x7b") then
    let _ ← next
    group "\x7b"
  else modified isPublic

/-- Reads a function or skips another item. -/
def declaration : Parser Node :=
  spanned do
    let vis ←
      if startsVisibility (← ahead) then do
        let v ← visibility
        pure [v]
      else pure []
    if startsFunctionItem (← ahead) then
      let (kind, children) ← function
      return (kind, vis ++ children)
    else
      otherItem (!vis.isEmpty)
      return ("item", vis)

/-- Whether tokens open a block with a literal and a colon, as a record of data
does and no statement. -/
def startsData : List Token → Bool
  | t :: u :: v :: _ => t.isMark "\x7b" && isLiteral u && v.isMark ":"
  | _ => false

/-- Skips a block of statements. -/
def block : Parser (String × List Node) := do
  if startsData (← ahead) then next *> next *> refuse
  else
    group "\x7b"
    return ("block", [])

/-- Reads what stands at the top level of a source. -/
def item : Parser Node := do
  let t ← peek
  if t.isMark "#" then attributeItem
  else if t.isMark ";" then
    return leaf "empty_statement" (← next) true
  else if t.isMark "\x7b" then spanned block
  else if t.kind == .word || t.isMark "::" then declaration
  else refuse

/-- Whether a token starts an item wherever it stands at the top level. -/
def startsItem (t : Token) : Bool :=
  t.isMark "#" ||
    (t.kind == .word &&
      ["pub", "fn", "struct", "enum", "trait", "impl", "mod", "use", "static",
        "type", "extern"].contains t.text)

/-- The token that an error is about: the one where reading stopped, unless the
source ends there or another item starts. Then the item itself was left
unfinished, and the error is about its first token. -/
def blame (first : Token) : Refusal → Token
  | none => first
  | some t => if startsItem t then first else t

/-- An error on a line. -/
def errorNode (row offset : Nat) : Node :=
  { kind := "ERROR", start := offset, stop := offset, row, hasError := true }

/-- Reads items until the tokens end or make no sense. -/
def items : Nat → Cursor → List Node
  | 0, _ => []
  | fuel + 1, c =>
      match c.tokens with
      | [] => []
      | first :: _ =>
          match item c with
          | .ok (node, rest) => node :: items fuel rest
          | .error refusal =>
              let bad := blame first refusal
              [errorNode bad.row bad.start]

end Parser

/-- The tree of a source given as characters. -/
def parseText (source : List Char) : Node :=
  let all := tokens source
  let children := Parser.items (all.length + 1) ⟨all, 0⟩
  { kind := "source_file"
    start := 0
    stop := Text.Utf8.size source
    hasError := children.any (·.hasError)
    children }

/-- The tree of a source. Bytes that are not UTF-8 have none, and give an
error. -/
def parse (source : List UInt8) : Node :=
  match Text.Utf8.decode source with
  | .ok text => parseText text
  | .error f =>
      { kind := "source_file", start := 0, stop := source.length, hasError := true
        children := [Parser.errorNode 0 f.position] }

end ApiCatalog.Rust
