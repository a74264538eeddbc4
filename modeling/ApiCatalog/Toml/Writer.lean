import ApiCatalog.Record
import ApiCatalog.Text.Quoted

/-!
# Writing catalogs as TOML

A catalog is a version, a source and an array of tables. Texts are written in
the escapes of a quoted text, with double quotes around them. Such a text may
hold a backslash and an `x`, from an escape by two digits or from the text
itself, and TOML has no such escape; `mendHex` is the rule by which these places
are joined again. It keeps a text without them as it is, loses the backslash of
a control character inside a text, and has no answer for a text that is nothing
but one control character and what follows it.
-/

namespace ApiCatalog.Toml

/-- Replaces every occurrence of two characters in a row, from the left. -/
def replacePair (a b : Char) (replacement : List Char) : List Char → List Char
  | x :: y :: rest =>
      if x == a && y == b then replacement ++ replacePair a b replacement rest
      else x :: replacePair a b replacement (y :: rest)
  | cs => cs

/-- The pieces between the occurrences of two characters in a row. -/
def splitPair (a b : Char) : List Char → List (List Char)
  | x :: y :: rest =>
      if x == a && y == b then [] :: splitPair a b rest
      else
        match splitPair a b (y :: rest) with
        | [] => [[x]]
        | piece :: pieces => (x :: piece) :: pieces
  | cs => [cs]

/-- Whether the piece in front of a joint ends in such a run of backslashes that
the joint is written as a plain `x`. The run is counted without the first
character of the piece. -/
def joinsPlain (piece : List Char) : Bool :=
  let run := (piece.reverse.takeWhile (· == '\\')).length
  run == 0 || min run (piece.length - 1) % 2 == 1

/-- Joins the rest of the pieces to what was joined so far. -/
def joinPieces (joined : List Char) : List (List Char) → List Char
  | [] => joined
  | piece :: rest =>
      let front := replacePair '\\' '\\' ['\\'] joined
      let joint := if joinsPlain front then ['x'] else ['u', '0', '0']
      joinPieces (front ++ joint ++ piece) rest

/-- Joins the pieces between the places with a backslash and an `x`. An empty
first piece is dropped, and then two more are needed. -/
def mendHex (cs : List Char) : Option (List Char) :=
  match splitPair '\\' 'x' cs with
  | [] => some []
  | [piece] => some piece
  | [] :: [_] => none
  | [] :: first :: second :: rest => some (joinPieces first (second :: rest))
  | first :: rest => some (joinPieces first rest)

/-- The inside of a text with the double quote as its mark. -/
def requote (s : List Char) : List Char :=
  let inside := Text.escaped s
  if Text.quoteMark s == '\'' then
    (replacePair '\\' '\'' ['\''] inside).flatMap fun c =>
      if c == '"' then ['\\', '"'] else [c]
  else inside

/-- A text between double quotes; a few texts cannot be written. -/
def quote? (s : String) : Option String :=
  (mendHex (requote s.toList)).map fun inside =>
    "\"" ++ String.ofList inside ++ "\""

/-- A list of texts on one line: a blank in front of every text, a comma behind
it. -/
def quoteList? : List String → Option String
  | [] => some "[]"
  | items => do
      let quoted ← items.mapM quote?
      return "[ " ++ String.intercalate ", " quoted ++ ",]"

/-- The line that gives a key a text. -/
def textLine? (key value : String) : Option String :=
  (quote? value).map fun quoted => key ++ " = " ++ quoted ++ "\n"

/-- The line that gives a key a list of texts. -/
def listLine? (key : String) (items : List String) : Option String :=
  (quoteList? items).map fun quoted => key ++ " = " ++ quoted ++ "\n"

/-- The line for the result type; a function without one has no such line. -/
def retLine? : Option String → Option String
  | none => some ""
  | some type => textLine? "ret_ty" type

/-- The table of a record, with an empty line after it. -/
def recordTable? (r : Record) : Option String := do
  let id ← textLine? "id" r.id
  let kind ← textLine? "api_kind" r.apiKind
  let types ← listLine? "arg_tys" r.argTypes
  let names ← listLine? "arg_ids" r.argNames
  let ret ← retLine? r.retType
  return "[[functions]]\n" ++ id ++ kind ++ types ++ names ++ ret ++ "\n"

/-- The text of a catalog, unless one of its texts cannot be written. -/
def write? (source : String) (records : List Record) : Option String := do
  let sourceLine ← textLine? "source" source
  let tables ← records.mapM recordTable?
  let functions :=
    if tables.isEmpty then "functions = []\n" else String.join tables
  return "version = \"1.0\"\n" ++ sourceLine ++ functions

end ApiCatalog.Toml
