import ApiCatalog.Record
import ApiCatalog.Text.Hex

/-!
# JSON

Values of the format and their text: one item or field to a line, two blanks
deeper at every level, and only ASCII characters. A character past U+FFFF is
written as its two UTF-16 units.
-/

namespace ApiCatalog

/-- A JSON value; objects keep the order of their fields. -/
inductive Json where
  | null
  | bool (b : Bool)
  /-- The number `± digits · 10 ^ exponent`. -/
  | number (negative : Bool) (digits : Nat) (exponent : Int)
  | text (s : String)
  | array (items : List Json)
  | object (fields : List (String × Json))
deriving Repr

namespace Json

/-- The escape of a UTF-16 unit. -/
def escapeUnit (n : Nat) : List Char :=
  '\\' :: 'u' :: Text.hexDigits 4 n

/-- One character inside a text. -/
def escape (c : Char) : List Char :=
  let n := c.toNat
  if c == '"' || c == '\\' then ['\\', c]
  else if c == '\n' then ['\\', 'n']
  else if c == '\r' then ['\\', 'r']
  else if c == '\t' then ['\\', 't']
  else if n == 0x0c then ['\\', 'f']
  else if n == 0x08 then ['\\', 'b']
  else if 0x20 ≤ n && n < 0x7f then [c]
  else if n < 0x10000 then escapeUnit n
  else
    escapeUnit (0xd800 + (n - 0x10000) / 0x400) ++
      escapeUnit (0xdc00 + (n - 0x10000) % 0x400)

/-- A text between quotes. -/
def quote (s : String) : List Char :=
  '"' :: s.toList.flatMap escape ++ ['"']

/-- A new line with the blanks of a level. -/
def newLine (level : Nat) : List Char :=
  '\n' :: List.replicate (2 * level) ' '

/-- A number: its digits, with an exponent unless that is zero. -/
def numberText (negative : Bool) (digits : Nat) (exponent : Int) : List Char :=
  (if negative then ['-'] else []) ++ Nat.toDigits 10 digits ++
    (if exponent == 0 then [] else 'e' :: (toString exponent).toList)

mutual

/-- The text of a value that stands on a level. -/
def render (level : Nat) : Json → List Char
  | .null => ['n', 'u', 'l', 'l']
  | .bool b => if b then ['t', 'r', 'u', 'e'] else ['f', 'a', 'l', 's', 'e']
  | .number negative digits exponent => numberText negative digits exponent
  | .text s => quote s
  | .array [] => ['[', ']']
  | .array (v :: rest) =>
      '[' :: newLine (level + 1) ++ render (level + 1) v ++
        renderItems (level + 1) rest ++ newLine level ++ [']']
  | .object [] => ['\x7b', '\x7d']
  | .object ((key, v) :: rest) =>
      '\x7b' :: newLine (level + 1) ++ quote key ++ [':', ' '] ++
        render (level + 1) v ++ renderFields (level + 1) rest ++
        newLine level ++ ['\x7d']

/-- The items of an array after the first one. -/
def renderItems (level : Nat) : List Json → List Char
  | [] => []
  | v :: rest =>
      ',' :: newLine level ++ render level v ++ renderItems level rest

/-- The fields of an object after the first one. -/
def renderFields (level : Nat) : List (String × Json) → List Char
  | [] => []
  | (key, v) :: rest =>
      ',' :: newLine level ++ quote key ++ [':', ' '] ++ render level v ++
        renderFields level rest

end

/-- A list of texts. -/
def ofTexts (items : List String) : Json :=
  .array (items.map .text)

/-- A text or `null`. -/
def ofText? : Option String → Json
  | none => .null
  | some s => .text s

/-- The object of a record. -/
def ofRecord (r : Record) : Json :=
  .object [("id", .text r.id), ("api_kind", .text r.apiKind),
    ("arg_tys", ofTexts r.argTypes), ("arg_ids", ofTexts r.argNames),
    ("ret_ty", ofText? r.retType)]

/-- The object of a catalog. -/
def ofCatalog (source : String) (records : List Record) : Json :=
  .object [("version", .text "1.0"), ("source", .text source),
    ("functions", .array (records.map ofRecord))]

/-- The text of a catalog. -/
def write (source : String) (records : List Record) : String :=
  String.ofList ((ofCatalog source records).render 0 ++ ['\n'])

end Json
end ApiCatalog
