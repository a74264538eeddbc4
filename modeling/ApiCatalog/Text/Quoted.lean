import ApiCatalog.Text.Hex
import ApiCatalog.Text.Printable

/-!
# Quoted texts

Messages show a text between quotes with escapes. The mark is the apostrophe,
unless the text holds an apostrophe and no double quote. Inside, the mark and
the backslash get a backslash, line feed, carriage return and tab have their
letters, and any other character that is not printable is written by its number
with as few of two, four or eight digits as hold it.
-/

namespace ApiCatalog.Text

/-- The mark around a quoted text. -/
def quoteMark (cs : List Char) : Char :=
  if cs.contains '\'' && !cs.contains '"' then '"' else '\''

/-- One character inside a quoted text with the given mark. -/
def escape (mark c : Char) : List Char :=
  if c == mark || c == '\\' then ['\\', c]
  else if c == '\n' then ['\\', 'n']
  else if c == '\r' then ['\\', 'r']
  else if c == '\t' then ['\\', 't']
  else if isPrintable c then [c]
  else if c.toNat < 0x100 then '\\' :: 'x' :: hexDigits 2 c.toNat
  else if c.toNat < 0x10000 then '\\' :: 'u' :: hexDigits 4 c.toNat
  else '\\' :: 'U' :: hexDigits 8 c.toNat

/-- The inside of a quoted text. -/
def escaped (cs : List Char) : List Char :=
  cs.flatMap (escape (quoteMark cs))

/-- A text between quotes, as messages show it. -/
def quoted (s : String) : String :=
  let cs := s.toList
  String.ofList (quoteMark cs :: escaped cs ++ [quoteMark cs])

/-- Quoted texts between brackets, as messages show a list of names. -/
def quotedList (names : List String) : String :=
  "[" ++ String.intercalate ", " (names.map quoted) ++ "]"

/-- Quoted texts between parentheses; a single one is followed by a comma. -/
def quotedTuple : List String → String
  | [name] => "(" ++ quoted name ++ ",)"
  | names => "(" ++ String.intercalate ", " (names.map quoted) ++ ")"

end ApiCatalog.Text
