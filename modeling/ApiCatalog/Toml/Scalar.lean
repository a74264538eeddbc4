import ApiCatalog.Text.Hex
import ApiCatalog.Toml.Fault
import ApiCatalog.Value

/-!
# Keys, strings, numbers and moments of TOML

Each reader takes the characters that are left and gives what it read with the
rest. Numbers and moments are the longest text of their form, so `01` is the
number zero with a stray digit after it.
-/

namespace ApiCatalog.Toml

/-- Stops in front of the given rest. -/
def stop {α : Type} (cause : Cause) (rest : List Char) : Except Stop α :=
  .error (.fault cause rest.length)

/-- Blanks inside a line. -/
def isSpace (c : Char) : Bool :=
  c == ' ' || c == '\t'

/-- Blanks and line ends. -/
def isSpaceOrLine (c : Char) : Bool :=
  isSpace c || c == '\n'

/-- The rest after blanks inside a line. -/
def skipSpaces (cs : List Char) : List Char :=
  cs.dropWhile isSpace

/-- Control characters, which no text may hold as they are; the tab is not
counted. -/
def isControl (c : Char) : Bool :=
  (c.toNat < 0x20 && c != '\t') || c.toNat == 0x7f

/-- Control characters other than the line feed. -/
def isControlInLines (c : Char) : Bool :=
  isControl c && c != '\n'

/-- The characters in front of the first occurrence of a mark, and the rest from
the mark on. -/
def cutAt? (mark : List Char) : List Char → Option (List Char × List Char)
  | [] => none
  | c :: rest =>
      if mark.isPrefixOf (c :: rest) then some ([], c :: rest)
      else (cutAt? mark rest).map fun (front, back) => (c :: front, back)

/-- Stops at the first character of a front that is not allowed; `back` is what
follows the front. -/
def refuse (isBad : Char → Bool) (front back : List Char) : Except Stop Unit :=
  match front.dropWhile fun c => !isBad c with
  | [] => .ok ()
  | c :: rest => stop (.invalidCharacter c) (c :: rest ++ back)

/-! ## Comments -/

/-- The rest after a comment, if one starts here. -/
def skipComment : List Char → Except Stop (List Char)
  | '#' :: rest => do
      let front := rest.takeWhile (· != '\n')
      let back := rest.dropWhile (· != '\n')
      refuse isControl front back
      return back
  | cs => .ok cs

/-- The rest after blanks, line ends and comments. -/
def skipFiller : Nat → List Char → Except Stop (List Char)
  | 0, cs => .ok cs
  | fuel + 1, cs =>
      match cs.dropWhile isSpaceOrLine with
      | '#' :: rest => do
          let back ← skipComment ('#' :: rest)
          skipFiller fuel back
      | rest => .ok rest

/-! ## Strings -/

/-- What the letter after a backslash stands for. -/
def escapeLetter? : Char → Option Char
  | 'b' => some '\x08'
  | 't' => some '\t'
  | 'n' => some '\n'
  | 'f' => some '\x0c'
  | 'r' => some '\r'
  | '"' => some '"'
  | '\\' => some '\\'
  | _ => none

/-- Reads the digits of an escape by number. -/
def hexEscape (width : Nat) (cs : List Char) : Except Stop (List Char × List Char) :=
  let digits := cs.take width
  match Text.hexNumber? digits with
  | some n =>
      if digits.length != width then stop .badHex cs
      else if n < 0xd800 || (0xe000 ≤ n && n < 0x110000) then
        .ok ([Char.ofNat n], cs.drop width)
      else stop .notScalar (cs.drop width)
  | none => stop .badHex cs

/-- Reads an escape; the characters start after the backslash. In a string of
several lines a backslash at the end of a line joins it to the next text. -/
def escapeIn (multiline : Bool) : List Char → Except Stop (List Char × List Char)
  | [] => stop .badEscape []
  | 'u' :: rest => hexEscape 4 rest
  | 'U' :: rest => hexEscape 8 rest
  | c :: rest =>
      if multiline && c == '\n' then .ok ([], rest.dropWhile isSpaceOrLine)
      else if multiline && isSpace c then
        match skipSpaces rest with
        | [] => .ok ([], [])
        | '\n' :: rest => .ok ([], rest.dropWhile isSpaceOrLine)
        | rest => stop .badEscape rest
      else
        match escapeLetter? c with
        | some d => .ok ([d], rest)
        | none => stop .badEscape rest

/-- Reads the inside of a basic string up to and with its end mark. -/
def basicText (multiline : Bool) :
    Nat → List Char → Except Stop (List Char × List Char)
  | 0, cs => stop .unterminated cs
  | _ + 1, [] => stop .unterminated []
  | fuel + 1, c :: rest =>
      if c == '"' then
        if !multiline then .ok ([], rest)
        else
          match rest with
          | '"' :: '"' :: rest => .ok ([], rest)
          | _ => do
              let (text, rest) ← basicText multiline fuel rest
              return ('"' :: text, rest)
      else if c == '\\' then do
        let (front, rest) ← escapeIn multiline rest
        let (text, rest) ← basicText multiline fuel rest
        return (front ++ text, rest)
      else if (if multiline then isControlInLines c else isControl c) then
        stop (.illegal c) (c :: rest)
      else do
        let (text, rest) ← basicText multiline fuel rest
        return (c :: text, rest)

/-- Reads a basic string of one line; the characters start after the quote. -/
def basicString (cs : List Char) : Except Stop (List Char × List Char) :=
  basicText false (cs.length + 1) cs

/-- Reads a literal string of one line; the characters start after the
apostrophe. -/
def literalString (cs : List Char) : Except Stop (List Char × List Char) :=
  match cutAt? ['\''] cs with
  | none => stop (.expectedMark "'") []
  | some (front, back) => do
      refuse isControl front back
      return (front, back.drop 1)

/-- The rest after the line end that may follow an opening mark. -/
def skipFirstLine : List Char → List Char
  | '\n' :: rest => rest
  | cs => cs

/-- Up to two more marks belong to the text when they follow its end mark. -/
def extraMarks (mark : Char) (text : List Char) : List Char → List Char × List Char
  | a :: b :: rest =>
      if a == mark && b == mark then (text ++ [mark, mark], rest)
      else if a == mark then (text ++ [mark], b :: rest)
      else (text, a :: b :: rest)
  | [a] => if a == mark then (text ++ [mark], []) else (text, [a])
  | [] => (text, [])

/-- Reads a basic string of several lines; the characters start after the three
quotes. -/
def basicLines (cs : List Char) : Except Stop (List Char × List Char) := do
  let (text, rest) ← basicText true (cs.length + 1) (skipFirstLine cs)
  return extraMarks '"' text rest

/-- Reads a literal string of several lines; the characters start after the
three apostrophes. -/
def literalLines (cs : List Char) : Except Stop (List Char × List Char) :=
  match cutAt? ['\'', '\'', '\''] (skipFirstLine cs) with
  | none => stop (.expectedMark "'''") []
  | some (front, back) => do
      refuse isControlInLines front back
      return extraMarks '\'' front (back.drop 3)

/-! ## Keys -/

/-- The characters of a name without quotes. -/
def isBare (c : Char) : Bool :=
  c.isAlphanum || c == '-' || c == '_'

/-- Reads one name of a key. -/
def keyPart : List Char → Except Stop (String × List Char)
  | '\'' :: rest => do
      let (text, rest) ← literalString rest
      return (String.ofList text, rest)
  | '"' :: rest => do
      let (text, rest) ← basicString rest
      return (String.ofList text, rest)
  | cs =>
      let front := cs.takeWhile isBare
      if front.isEmpty then stop .invalidKeyStart cs
      else .ok (String.ofList front, cs.drop front.length)

/-- Reads the names of a key after the first. -/
def keyTail : Nat → List Char → Except Stop (Key × List Char)
  | 0, cs => .ok ([], cs)
  | fuel + 1, cs =>
      match skipSpaces cs with
      | '.' :: rest => do
          let (name, rest) ← keyPart (skipSpaces rest)
          let (names, rest) ← keyTail fuel rest
          return (name :: names, rest)
      | rest => .ok ([], rest)

/-- Reads a key and the blanks after it. -/
def key (cs : List Char) : Except Stop (Key × List Char) := do
  let (name, rest) ← keyPart cs
  let (names, rest) ← keyTail (rest.length + 1) rest
  return (name :: names, rest)

/-! ## Moments -/

/-- The number that a run of decimal digits stands for. -/
def decimalNumber (cs : List Char) : Nat :=
  cs.foldl (fun n c => 10 * n + (c.toNat - 0x30)) 0

/-- Reads a number of exactly `width` digits that lies in a range. -/
def digitsIn? (width low high : Nat) (cs : List Char) : Option (Nat × List Char) :=
  let front := cs.take width
  let n := decimalNumber front
  if front.length == width && front.all Char.isDigit && low ≤ n && n ≤ high then
    some (n, cs.drop width)
  else none

/-- Reads one given character. -/
def char? (c : Char) : List Char → Option (List Char)
  | d :: rest => if d == c then some rest else none
  | [] => none

/-- Reads the fraction of a second, to the microsecond; further digits are
dropped. -/
def fraction : List Char → Nat × List Char
  | '.' :: rest =>
      let front := rest.takeWhile Char.isDigit
      if front.isEmpty then (0, '.' :: rest)
      else
        let six := front.take 6
        (decimalNumber six * Nat.pow 10 (6 - six.length), rest.drop front.length)
  | cs => (0, cs)

/-- Reads a time of day: hour, minute, second and microsecond. -/
def clock? (cs : List Char) : Option ((Nat × Nat × Nat × Nat) × List Char) := do
  let (hour, cs) ← digitsIn? 2 0 23 cs
  let (minute, cs) ← digitsIn? 2 0 59 (← char? ':' cs)
  let (second, cs) ← digitsIn? 2 0 59 (← char? ':' cs)
  let (micros, cs) := fraction cs
  return ((hour, minute, second, micros), cs)

/-- Reads a day: year, month and day of the month. -/
def day? (cs : List Char) : Option ((Nat × Nat × Nat) × List Char) := do
  let (year, cs) ← digitsIn? 4 0 9999 cs
  let (month, cs) ← digitsIn? 2 1 12 (← char? '-' cs)
  let (day, cs) ← digitsIn? 2 1 31 (← char? '-' cs)
  return ((year, month, day), cs)

/-- Reads a distance from UTC, if one is there. -/
def offset (cs : List Char) : Option Int × List Char :=
  let signed := fun (sign : Int) (rest : List Char) => do
    let (hour, rest) ← digitsIn? 2 0 23 rest
    let (minute, rest) ← digitsIn? 2 0 59 (← char? ':' rest)
    return (some (sign * (60 * (hour : Int) + minute)), rest)
  match cs with
  | 'Z' :: rest | 'z' :: rest => (some 0, rest)
  | '+' :: rest => (signed 1 rest).getD (none, cs)
  | '-' :: rest => (signed (-1) rest).getD (none, cs)
  | _ => (none, cs)

/-- The number of days in a month. -/
def monthLength (year month : Nat) : Nat :=
  if month == 2 then
    if year % 4 == 0 && (year % 100 != 0 || year % 400 == 0) then 29 else 28
  else if month == 4 || month == 6 || month == 9 || month == 11 then 30
  else 31

/-- Reads a moment, if the text has the form of one; a day that no calendar has
is a fault at its start. -/
def moment? (cs : List Char) : Option (Except Stop (Moment × List Char)) :=
  match day? cs with
  | some ((year, month, day), rest) =>
      let checked := fun (m : Moment) (rest : List Char) =>
        if 1 ≤ year && day ≤ monthLength year month then Except.ok (m, rest)
        else stop .invalidDate cs
      let timed :=
        match rest with
        | c :: more => if c == 'T' || c == 't' || c == ' ' then clock? more else none
        | [] => none
      match timed with
      | some ((hour, minute, second, micros), rest) =>
          let (zone, rest) := offset rest
          some (checked
            (.dateTime year month day hour minute second micros zone) rest)
      | none => some (checked (.date year month day) rest)
  | none =>
      (clock? cs).map fun ((hour, minute, second, micros), rest) =>
        .ok (.time hour minute second micros, rest)

/-! ## Numbers -/

/-- Digits that go on after a digit, with single underscores between them. -/
def moreDigits (isDigit : Char → Bool) : List Char → List Char × List Char
  | '_' :: c :: rest =>
      if isDigit c then
        let (digits, rest) := moreDigits isDigit rest
        (c :: digits, rest)
      else ([], '_' :: c :: rest)
  | c :: rest =>
      if isDigit c then
        let (digits, rest) := moreDigits isDigit rest
        (c :: digits, rest)
      else ([], c :: rest)
  | [] => ([], [])

/-- Digits with single underscores between them; at least one. -/
def digits? (isDigit : Char → Bool) : List Char → Option (List Char × List Char)
  | c :: rest =>
      if isDigit c then
        let (digits, rest) := moreDigits isDigit rest
        some (c :: digits, rest)
      else none
  | [] => none

/-- The number that digits stand for in a base of up to sixteen. -/
def numberIn (base : Nat) (digits : List Char) : Nat :=
  digits.foldl (fun n c => base * n + (Text.hexValue? c).getD 0) 0

/-- Reads an integer in base sixteen, eight or two. -/
def based? : List Char → Option (Nat × List Char)
  | '0' :: 'x' :: rest =>
      (digits? (fun c => (Text.hexValue? c).isSome) rest).map fun (ds, rest) =>
        (numberIn 16 ds, rest)
  | '0' :: 'o' :: rest =>
      (digits? (fun c => '0' ≤ c && c ≤ '7') rest).map fun (ds, rest) =>
        (numberIn 8 ds, rest)
  | '0' :: 'b' :: rest =>
      (digits? (fun c => c == '0' || c == '1') rest).map fun (ds, rest) =>
        (numberIn 2 ds, rest)
  | _ => none

/-- Reads a sign; no sign is a plus. -/
def sign : List Char → Bool × List Char
  | '-' :: rest => (true, rest)
  | '+' :: rest => (false, rest)
  | cs => (false, cs)

/-- Reads the whole part of a decimal number: a zero, or digits that do not
start with one. -/
def wholePart? : List Char → Option (List Char × List Char)
  | '0' :: rest => some (['0'], rest)
  | cs => digits? Char.isDigit cs

/-- Reads the part after the point, if one is there. -/
def fractionPart (cs : List Char) : List Char × List Char :=
  match cs with
  | '.' :: rest => (digits? Char.isDigit rest).getD ([], cs)
  | _ => ([], cs)

/-- Reads an exponent, if one is there. -/
def exponentPart (cs : List Char) : Option Int × List Char :=
  match cs with
  | c :: rest =>
      if c == 'e' || c == 'E' then
        let (negative, rest) := sign rest
        match digits? Char.isDigit rest with
        | some (ds, rest) =>
            let n := (decimalNumber ds : Int)
            (some (if negative then -n else n), rest)
        | none => (none, cs)
      else (none, cs)
  | [] => (none, cs)

/-- The most digits that a whole number may have in base ten. -/
def digitLimit : Nat := 4300

/-- The whole number of a sign and digits, if they are not too many. -/
def wholeNumber (negative : Bool) (digits : List Char) : Except Stop Value :=
  if digitLimit < digits.length then .error (.oversized digits.length)
  else
    let n := (decimalNumber digits : Int)
    .ok (.int (if negative then -n else n))

/-- Reads a number. A point or an exponent makes it a double; only a whole
number in base ten can be too long. -/
def number? (cs : List Char) : Option (Except Stop (Value × List Char)) :=
  match based? cs with
  | some (n, rest) => some (.ok (.int n, rest))
  | none => do
      let (negative, rest) := sign cs
      let (whole, rest) ← wholePart? rest
      let (part, rest) := fractionPart rest
      let (exponent, rest) := exponentPart rest
      if part.isEmpty && exponent.isNone then
        return (wholeNumber negative whole).map fun v => (v, rest)
      else
        let places := exponent.getD 0 - part.length
        return .ok (.double
          (.ofDecimal negative (decimalNumber (whole ++ part)) places), rest)

/-- Reads one of the special numbers. -/
def special? (cs : List Char) : Option (Except Stop (Value × List Char)) :=
  let (negative, rest) := sign cs
  match rest with
  | 'i' :: 'n' :: 'f' :: rest => some (.ok (.double (.infinite negative), rest))
  | 'n' :: 'a' :: 'n' :: rest => some (.ok (.double .undefined, rest))
  | _ => none

end ApiCatalog.Toml
