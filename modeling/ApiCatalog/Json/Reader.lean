import ApiCatalog.Json

/-!
# Reading JSON

The whole format, not only what the writer produces: blanks anywhere between
tokens, all escapes, numbers with a fraction and an exponent. Each reader takes
the characters that are left and gives what it read with the rest.

Two halves of a character past U+FFFF have to stand together; half a character
stands for nothing and is refused.
-/

namespace ApiCatalog.Json

/-- Blanks between tokens. -/
def isBlank (c : Char) : Bool :=
  c == ' ' || c == '\n' || c == '\t' || c == '\r'

/-- The rest after blanks. -/
def skipBlanks (cs : List Char) : List Char :=
  cs.dropWhile isBlank

/-! ## Texts -/

/-- What the letter after a backslash stands for. -/
def escaped? : Char → Option Char
  | '"' => some '"'
  | '\\' => some '\\'
  | '/' => some '/'
  | 'b' => some '\x08'
  | 'f' => some '\x0c'
  | 'n' => some '\n'
  | 'r' => some '\r'
  | 't' => some '\t'
  | _ => none

/-- Whether a unit is the first half of a character. -/
def isHighUnit (n : Nat) : Bool :=
  0xd800 ≤ n && n < 0xdc00

/-- Whether a unit is the second half of a character. -/
def isLowUnit (n : Nat) : Bool :=
  0xdc00 ≤ n && n < 0xe000

/-- The character of two halves. -/
def joinUnits (high low : Nat) : Char :=
  Char.ofNat (0x10000 + (high - 0xd800) * 0x400 + (low - 0xdc00))

/-- Puts a character in front of a text that was read. -/
def prepend (c : Char) :
    Option (List Char × List Char) → Option (List Char × List Char)
  | some (read, rest) => some (c :: read, rest)
  | none => none

/-- Reads the inside of a text, up to and with its quote. -/
def readText : List Char → Option (List Char × List Char)
  | [] => none
  | c :: rest =>
      if c == '"' then some ([], rest)
      else if c == '\\' then
        match rest with
        | 'u' :: a :: b :: d :: e :: rest =>
            match Text.hexNumber? [a, b, d, e] with
            | none => none
            | some n =>
                if isHighUnit n then
                  match rest with
                  | '\\' :: 'u' :: a :: b :: d :: e :: rest =>
                      match Text.hexNumber? [a, b, d, e] with
                      | none => none
                      | some m =>
                          if isLowUnit m then
                            prepend (joinUnits n m) (readText rest)
                          else none
                  | _ => none
                else if isLowUnit n then none
                else prepend (Char.ofNat n) (readText rest)
        | letter :: rest =>
            match escaped? letter with
            | none => none
            | some c => prepend c (readText rest)
        | [] => none
      else if c.toNat < 0x20 then none
      else prepend c (readText rest)

/-! ## Numbers -/

/-- The number that a run of decimal digits stands for. -/
def digitsValue (cs : List Char) : Nat :=
  cs.foldl (fun n c => 10 * n + (c.toNat - 0x30)) 0

/-- Reads digits; there has to be one. -/
def readDigits (cs : List Char) : Option (List Char × List Char) :=
  match cs.takeWhile Char.isDigit with
  | [] => none
  | digits => some (digits, cs.dropWhile Char.isDigit)

/-- Reads the digits in front of the point: a zero stands alone. -/
def readWhole : List Char → Option (List Char × List Char)
  | '0' :: rest => some (['0'], rest)
  | cs => readDigits cs

/-- Reads the digits after the point, if there is one. -/
def readFraction : List Char → Option (List Char × List Char)
  | '.' :: rest => readDigits rest
  | cs => some ([], cs)

/-- Reads the digits of an exponent with its sign. -/
def readSigned : List Char → Option (Int × List Char)
  | '-' :: rest =>
      (readDigits rest).map fun (ds, rest) => (-(digitsValue ds : Int), rest)
  | '+' :: rest =>
      (readDigits rest).map fun (ds, rest) => ((digitsValue ds : Int), rest)
  | cs => (readDigits cs).map fun (ds, rest) => ((digitsValue ds : Int), rest)

/-- Reads an exponent, if there is one. -/
def readExponent : List Char → Option (Int × List Char)
  | 'e' :: rest => readSigned rest
  | 'E' :: rest => readSigned rest
  | cs => some (0, cs)

/-- Reads a number without its sign. -/
def readNumber (negative : Bool) (cs : List Char) : Option (Json × List Char) := do
  let (whole, rest) ← readWhole cs
  let (part, rest) ← readFraction rest
  let (exponent, rest) ← readExponent rest
  let digits := digitsValue (whole ++ part)
  return (.number negative digits (exponent - (part.length : Int)), rest)

/-! ## Values -/

mutual

/-- Reads a value after blanks. -/
def readValue : Nat → List Char → Option (Json × List Char)
  | 0, _ => none
  | fuel + 1, cs =>
      match skipBlanks cs with
      | 'n' :: 'u' :: 'l' :: 'l' :: rest => some (.null, rest)
      | 't' :: 'r' :: 'u' :: 'e' :: rest => some (.bool true, rest)
      | 'f' :: 'a' :: 'l' :: 's' :: 'e' :: rest => some (.bool false, rest)
      | '"' :: rest => do
          let (inside, rest) ← readText rest
          return (.text (String.ofList inside), rest)
      | '[' :: rest =>
          match skipBlanks rest with
          | ']' :: rest => some (.array [], rest)
          | rest => do
              let (items, rest) ← readItems fuel rest
              return (.array items, rest)
      | '\x7b' :: rest =>
          match skipBlanks rest with
          | '\x7d' :: rest => some (.object [], rest)
          | rest => do
              let (fields, rest) ← readFields fuel rest
              return (.object fields, rest)
      | '-' :: rest => readNumber true rest
      | rest => readNumber false rest

/-- Reads the items of an array, of which there is one, up to and with its
bracket. -/
def readItems : Nat → List Char → Option (List Json × List Char)
  | 0, _ => none
  | fuel + 1, cs => do
      let (v, rest) ← readValue fuel cs
      match skipBlanks rest with
      | ']' :: rest => return ([v], rest)
      | ',' :: rest => do
          let (items, rest) ← readItems fuel rest
          return (v :: items, rest)
      | _ => none

/-- Reads the fields of an object, of which there is one, up to and with its
brace. -/
def readFields : Nat → List Char → Option (List (String × Json) × List Char)
  | 0, _ => none
  | fuel + 1, cs =>
      match skipBlanks cs with
      | '"' :: rest => do
          let (key, rest) ← readText rest
          match skipBlanks rest with
          | ':' :: rest => do
              let (v, rest) ← readValue fuel rest
              let field := (String.ofList key, v)
              match skipBlanks rest with
              | '\x7d' :: rest => return ([field], rest)
              | ',' :: rest => do
                  let (fields, rest) ← readFields fuel rest
                  return (field :: fields, rest)
              | _ => none
          | _ => none
      | _ => none

end

/-- Reads a document: one value with blanks around it. Every call takes a
character for each two units of fuel, so twice the length is enough. -/
def read? (source : String) : Option Json :=
  match readValue (2 * source.toList.length + 2) source.toList with
  | some (v, rest) => if (skipBlanks rest).isEmpty then some v else none
  | none => none

end ApiCatalog.Json
