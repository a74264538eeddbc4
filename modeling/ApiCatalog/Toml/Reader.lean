import ApiCatalog.Toml.Namespace
import ApiCatalog.Toml.Scalar

/-!
# Reading TOML documents

A document is a list of statements, one to a line: a header that names a table,
a header that adds a table to an array, or a key with its value. Values nest
through arrays and inline tables. The readers that call one another count down a
fuel that starts above twice the length of the document; every call reads at
least one character for each two units of fuel, so it never runs out. There is
no limit on how deep values nest.
-/

namespace ApiCatalog.Toml

mutual

/-- Reads a value. -/
def value : Nat → List Char → Except Stop (Value × List Char)
  | 0, cs => stop .invalidValue cs
  | fuel + 1, cs =>
      let textValue := fun (r : Except Stop (List Char × List Char)) =>
        r.map fun (text, rest) => (Value.text (String.ofList text), rest)
      match cs with
      | '"' :: '"' :: '"' :: rest => textValue (basicLines rest)
      | '"' :: rest => textValue (basicString rest)
      | '\'' :: '\'' :: '\'' :: rest => textValue (literalLines rest)
      | '\'' :: rest => textValue (literalString rest)
      | 't' :: 'r' :: 'u' :: 'e' :: rest => .ok (.bool true, rest)
      | 'f' :: 'a' :: 'l' :: 's' :: 'e' :: rest => .ok (.bool false, rest)
      | '[' :: rest => do
          let rest ← skipFiller (rest.length + 1) rest
          let (items, rest) ← arrayItems fuel rest
          return (.list items, rest)
      | '\x7b' :: rest =>
          match skipSpaces rest with
          | '\x7d' :: rest => .ok (.table [], rest)
          | rest => do
              let (table, rest) ← inlineFields fuel {} rest
              return (.table table, rest)
      | cs =>
          match moment? cs with
          | some reading => reading.map fun (m, rest) => (.moment m, rest)
          | none =>
              match (number? cs).or (special? cs) with
              | some reading => reading
              | none => stop .invalidValue cs

/-- Reads the items of an array up to and with its bracket. -/
def arrayItems : Nat → List Char → Except Stop (List Value × List Char)
  | 0, cs => stop .unclosedArray cs
  | _ + 1, ']' :: rest => .ok ([], rest)
  | fuel + 1, cs => do
      let (v, rest) ← value fuel cs
      let rest ← skipFiller (rest.length + 1) rest
      match rest with
      | ']' :: rest => return ([v], rest)
      | ',' :: rest => do
          let rest ← skipFiller (rest.length + 1) rest
          let (items, rest) ← arrayItems fuel rest
          return (v :: items, rest)
      | rest => stop .unclosedArray rest

/-- Reads the fields of an inline table up to and with its brace. -/
def inlineFields : Nat → Inline → List Char → Except Stop (Table × List Char)
  | 0, _, cs => stop .unclosedInlineTable cs
  | fuel + 1, inline_, cs => do
      let (k, v, rest) ← keyValue fuel cs
      match inline_.add k v with
      | .error cause => stop cause rest
      | .ok inline_ =>
          match skipSpaces rest with
          | '\x7d' :: rest => return (inline_.table, rest)
          | ',' :: rest => inlineFields fuel inline_ (skipSpaces rest)
          | rest => stop .unclosedInlineTable rest

/-- Reads a key, an equals sign and a value. -/
def keyValue : Nat → List Char → Except Stop (Key × Value × List Char)
  | 0, cs => stop .invalidValue cs
  | fuel + 1, cs => do
      let (k, rest) ← key cs
      match rest with
      | '=' :: rest => do
          let (v, rest) ← value fuel (skipSpaces rest)
          return (k, v, rest)
      | rest => stop .expectedEquals rest

end

/-- Reads one statement; the characters start at its first one. -/
def statement (fuel : Nat) (doc : Document) :
    List Char → Except Stop (Document × List Char)
  | '[' :: '[' :: rest => do
      let (k, rest) ← key (skipSpaces rest)
      match doc.settle.openArray k with
      | .error cause => stop cause rest
      | .ok doc =>
          match rest with
          | ']' :: ']' :: rest => return (doc, rest)
          | rest => stop .expectedArrayEnd rest
  | '[' :: rest => do
      let (k, rest) ← key (skipSpaces rest)
      match doc.settle.openTable k with
      | .error cause => stop cause rest
      | .ok doc =>
          match rest with
          | ']' :: rest => return (doc, rest)
          | rest => stop .expectedTableEnd rest
  | cs =>
      match cs with
      | [] => .ok (doc, [])
      | '#' :: _ => .ok (doc, cs)
      | c :: _ =>
          if isBare c || c == '"' || c == '\'' then do
            let (k, v, rest) ← keyValue fuel cs
            match doc.add k v with
            | .error cause => stop cause rest
            | .ok doc => return (doc, rest)
          else stop .invalidStatement cs

/-- Reads the statements of a document, one to a line. -/
def statements : Nat → Document → List Char → Except Stop Document
  | 0, doc, _ => .ok doc
  | fuel + 1, doc, cs =>
      match skipSpaces cs with
      | [] => .ok doc
      | '\n' :: rest => statements fuel doc rest
      | cs => do
          let (doc, rest) ← statement (2 * cs.length + 2) doc cs
          let rest ← skipComment (skipSpaces rest)
          match rest with
          | [] => return doc
          | '\n' :: rest => statements fuel doc rest
          | rest => stop .expectedLineEnd rest

/-- Reads a document. -/
def read (source : List Char) : Except Refusal Table :=
  match statements (source.length + 1) {} source with
  | .ok doc => .ok doc.table
  | .error s => .error (.ofStop source s)

end ApiCatalog.Toml
