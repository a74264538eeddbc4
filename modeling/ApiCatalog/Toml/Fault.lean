import ApiCatalog.Text.Quoted

/-!
# Faults of TOML documents

A fault says what the reader missed and where it stood when it noticed. While
reading, the place is the number of characters that were left; the line and the
column are worked out once, from the whole document.

A number can also be too long to be converted. That breaks no rule of the
format, so it is no fault and has no place: the document is refused with the
number of digits alone.
-/

namespace ApiCatalog.Toml

/-- A key: the names between its dots. -/
abbrev Key := List String

/-- What is wrong with a document. -/
inductive Cause where
  | invalidStatement
  | expectedLineEnd
  | expectedEquals
  | invalidKeyStart
  | expectedTableEnd
  | expectedArrayEnd
  | declaredTwice (key : Key)
  | overwritten
  | immutable (key : Key)
  | redefined (key : Key)
  | unclosedArray
  | unclosedInlineTable
  | duplicateKey (name : String)
  | invalidValue
  | unterminated
  | badEscape
  | badHex
  | notScalar
  /-- A character that a basic string may not hold. -/
  | illegal (c : Char)
  /-- A character that a literal string or a comment may not hold. -/
  | invalidCharacter (c : Char)
  /-- The end mark of a literal string is missing. -/
  | expectedMark (mark : String)
  | invalidDate
deriving DecidableEq, Repr

/-- The wording of a cause. -/
def Cause.message : Cause → String
  | .invalidStatement => "Invalid statement"
  | .expectedLineEnd =>
      "Expected newline or end of document after a statement"
  | .expectedEquals => "Expected '=' after a key in a key/value pair"
  | .invalidKeyStart => "Invalid initial character for a key part"
  | .expectedTableEnd => "Expected ']' at the end of a table declaration"
  | .expectedArrayEnd => "Expected ']]' at the end of an array declaration"
  | .declaredTwice key => "Cannot declare " ++ Text.quotedTuple key ++ " twice"
  | .overwritten => "Cannot overwrite a value"
  | .immutable key =>
      "Cannot mutate immutable namespace " ++ Text.quotedTuple key
  | .redefined key => "Cannot redefine namespace " ++ Text.quotedTuple key
  | .unclosedArray => "Unclosed array"
  | .unclosedInlineTable => "Unclosed inline table"
  | .duplicateKey name => "Duplicate inline table key " ++ Text.quoted name
  | .invalidValue => "Invalid value"
  | .unterminated => "Unterminated string"
  | .badEscape => "Unescaped '\\' in a string"
  | .badHex => "Invalid hex value"
  | .notScalar => "Escaped character is not a Unicode scalar value"
  | .illegal c => "Illegal character " ++ Text.quoted (String.ofList [c])
  | .invalidCharacter c =>
      "Found invalid character " ++ Text.quoted (String.ofList [c])
  | .expectedMark mark => "Expected " ++ Text.quoted mark
  | .invalidDate => "Invalid date or datetime"

/-- Why reading stops. -/
inductive Stop where
  /-- A fault, with how many characters were left. -/
  | fault (cause : Cause) (remaining : Nat)
  /-- A whole number of so many digits, more than are converted. -/
  | oversized (digits : Nat)
deriving DecidableEq, Repr

/-- Where a fault was noticed. -/
inductive Place where
  | endOfDocument
  | at_ (line column : Nat)
deriving DecidableEq, Repr

/-- What is wrong with a document, and where. -/
structure Fault where
  cause : Cause
  place : Place
deriving DecidableEq, Repr

/-- The place of a document where some characters are left: lines and columns
are counted from one. -/
def Place.ofRemaining (source : List Char) (remaining : Nat) : Place :=
  if remaining == 0 then .endOfDocument
  else
    let read := source.take (source.length - remaining)
    .at_ (read.count '\n' + 1)
      ((read.reverse.takeWhile (· != '\n')).length + 1)

/-- The wording of a place. -/
def Place.message : Place → String
  | .endOfDocument => "end of document"
  | .at_ line column => "line " ++ toString line ++ ", column " ++ toString column

/-- The wording of a fault. -/
def Fault.message (f : Fault) : String :=
  f.cause.message ++ " (at " ++ f.place.message ++ ")"

/-- Why a document is not read. -/
inductive Refusal where
  | malformed (f : Fault)
  /-- A whole number has so many digits, more than are converted. -/
  | oversized (digits : Nat)
deriving DecidableEq, Repr

/-- Why a document is not read, from where its reading stopped. -/
def Refusal.ofStop (source : List Char) : Stop → Refusal
  | .fault cause remaining => .malformed ⟨cause, .ofRemaining source remaining⟩
  | .oversized digits => .oversized digits

end ApiCatalog.Toml
