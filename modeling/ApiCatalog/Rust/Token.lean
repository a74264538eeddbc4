import ApiCatalog.Text.Identifier

/-!
# Tokens of Rust sources

A source is cut into tokens; blanks and comments between them are dropped, but
every token knows where it stands, so a piece of source can be shown with the
comments inside it. A literal or comment that is never closed is an invalid
token that reaches to the end.

Each `…Length` function gives the number of characters of what stands in front.
They are plain recursions on the characters.
-/

namespace ApiCatalog.Rust

/-- The sorts of tokens. -/
inductive TokenKind where
  /-- An identifier or keyword, perhaps with `r#` in front. -/
  | word
  | lifetime
  /-- A string, byte string or C string with escapes. -/
  | string
  | rawString
  | char
  | number
  /-- Punctuation. -/
  | mark
  /-- Characters that no token starts with, or an unclosed literal. -/
  | invalid
deriving DecidableEq, Repr

/-- A token with its place: the bytes it covers and the line it starts on. -/
structure Token where
  kind : TokenKind
  text : String
  start : Nat
  stop : Nat
  row : Nat
deriving DecidableEq, Repr

namespace Token

/-- Whether a token is the given mark. -/
def isMark (t : Token) (text : String) : Bool :=
  t.kind == .mark && t.text == text

/-- Whether a token is the given word. -/
def isWord (t : Token) (text : String) : Bool :=
  t.kind == .word && t.text == text

end Token

/-! ## Blanks and comments -/

/-- Blanks between tokens. -/
def isGap (c : Char) : Bool :=
  c == ' ' || (0x09 ≤ c.toNat && c.toNat ≤ 0x0d)

/-- The length of the rest of a block comment; comments nest, and `depth` others
have to be closed as well. -/
def blockLength : Nat → List Char → Option Nat
  | depth, '/' :: '*' :: rest => (blockLength (depth + 1) rest).map (· + 2)
  | depth, '*' :: '/' :: rest =>
      match depth with
      | 0 => some 2
      | depth + 1 => (blockLength depth rest).map (· + 2)
  | depth, _ :: rest => (blockLength depth rest).map (· + 1)
  | _, [] => none

/-! ## Literals -/

/-- The length of the rest of a string, its quote included. -/
def stringLength : List Char → Option Nat
  | '\\' :: _ :: rest => (stringLength rest).map (· + 2)
  | '"' :: _ => some 1
  | _ :: rest => (stringLength rest).map (· + 1)
  | [] => none

/-- The length of the rest of a raw string that a quote and some hashes end. -/
def rawLength (hashes : Nat) : List Char → Option Nat
  | [] => none
  | c :: rest =>
      if c == '"' && (List.replicate hashes '#').isPrefixOf rest then
        some (hashes + 1)
      else (rawLength hashes rest).map (· + 1)

/-- The length of the rest of a character literal after its escape. -/
def charLength : List Char → Option Nat
  | '\'' :: _ => some 1
  | '\n' :: _ => none
  | _ :: rest => (charLength rest).map (· + 1)
  | [] => none

/-- The number of hashes in front, if a quote follows them. -/
def rawHashes? (cs : List Char) : Option Nat :=
  match cs.dropWhile (· == '#') with
  | '"' :: _ => some (cs.takeWhile (· == '#')).length
  | _ => none

/-- The length of an identifier. -/
def wordLength : List Char → Nat
  | [] => 0
  | c :: rest =>
      if Text.isIdentifierStart c then
        (rest.takeWhile Text.isIdentifierContinue).length + 1
      else 0

/-! ## Pieces -/

/-- What stands in front: something between tokens, or a token. -/
inductive Piece where
  | gap (length : Nat)
  | token (kind : TokenKind) (length : Nat)

/-- A token that is closed somewhere, after so many characters. -/
def closed (kind : TokenKind) (opening : Nat) (rest : Option Nat)
    (source : List Char) : Piece :=
  match rest with
  | some n => .token kind (opening + n)
  | none => .token .invalid source.length

/-- A raw string with a letter or two in front. -/
def rawPiece (opening hashes : Nat) (source : List Char) : Piece :=
  let start := opening + hashes + 1
  closed .rawString start (rawLength hashes (source.drop start)) source

/-- What an apostrophe starts: a character or a lifetime. -/
def quotePiece (source : List Char) : Piece :=
  match source with
  | '\'' :: '\\' :: _ :: rest => closed .char 3 (charLength rest) source
  | '\'' :: '\'' :: _ => .token .char 2
  | '\'' :: _ :: '\'' :: _ => .token .char 3
  | _ :: rest =>
      match wordLength rest with
      | 0 => .token .invalid 1
      | n => .token .lifetime (n + 1)
  | [] => .token .invalid 0

/-- An identifier or keyword. -/
def wordPiece (source : List Char) : Piece :=
  match source with
  | 'r' :: '#' :: rest =>
      match wordLength rest with
      | 0 => .token .word 1
      | n => .token .word (n + 2)
  | _ => .token .word (wordLength source)

/-- What a letter starts: a literal with a letter in front, or a word. -/
def letterPiece (source : List Char) : Piece :=
  match source with
  | 'b' :: '"' :: rest => closed .string 2 (stringLength rest) source
  | 'c' :: '"' :: rest => closed .string 2 (stringLength rest) source
  | 'b' :: '\'' :: '\\' :: _ :: rest => closed .char 4 (charLength rest) source
  | 'b' :: '\'' :: _ :: '\'' :: _ => .token .char 4
  | 'r' :: rest =>
      match rawHashes? rest with
      | some hashes => rawPiece 1 hashes source
      | none => wordPiece source
  | 'b' :: 'r' :: rest =>
      match rawHashes? rest with
      | some hashes => rawPiece 2 hashes source
      | none => wordPiece source
  | 'c' :: 'r' :: rest =>
      match rawHashes? rest with
      | some hashes => rawPiece 2 hashes source
      | none => wordPiece source
  | _ => wordPiece source

/-- The characters that are a mark by themselves. -/
def isMarkChar (c : Char) : Bool :=
  "()[]\x7b\x7d<>#!$&*+,-./:;=?@|^%~".toList.contains c

/-- What stands in front of a source that is not empty. -/
def pieceOf (source : List Char) : Piece :=
  match source with
  | '/' :: '/' :: rest => .gap ((rest.takeWhile (· != '\n')).length + 2)
  | '/' :: '*' :: rest =>
      match blockLength 0 rest with
      | some n => .gap (n + 2)
      | none => .token .invalid source.length
  | '"' :: rest => closed .string 1 (stringLength rest) source
  | '\'' :: _ => quotePiece source
  | '-' :: '>' :: _ => .token .mark 2
  | ':' :: ':' :: _ => .token .mark 2
  | '.' :: '.' :: '.' :: _ => .token .mark 3
  | c :: rest =>
      if isGap c then .gap ((rest.takeWhile isGap).length + 1)
      else if c.isDigit then
        .token .number ((rest.takeWhile Text.isIdentifierContinue).length + 1)
      else if Text.isIdentifierStart c then letterPiece source
      else if isMarkChar c then .token .mark 1
      else .token .invalid 1
  | [] => .gap 0

/-! ## Sources -/

/-- A place in a source: the bytes and the lines in front of it. -/
structure Place where
  offset : Nat := 0
  row : Nat := 0

/-- The place after some characters. -/
def Place.after (p : Place) (cs : List Char) : Place :=
  cs.foldl
    (fun p c => ⟨p.offset + c.utf8Size, if c == '\n' then p.row + 1 else p.row⟩)
    p

/-- The tokens of a source that starts at a place. Every piece is at least one
character long, so the length of the source is fuel enough. -/
def tokensFrom : Nat → Place → List Char → List Token
  | 0, _, _ => []
  | _ + 1, _, [] => []
  | fuel + 1, place, c :: rest =>
      match pieceOf (c :: rest) with
      | .gap length =>
          let front := c :: rest.take (length - 1)
          tokensFrom fuel (place.after front) (rest.drop (length - 1))
      | .token kind length =>
          let front := c :: rest.take (length - 1)
          let after := place.after front
          ⟨kind, String.ofList front, place.offset, after.offset, place.row⟩ ::
            tokensFrom fuel after (rest.drop (length - 1))

/-- A first line that names an interpreter: `#!` and no bracket right after it.
It has to end in a line feed, which is left. -/
def interpreterLine (source : List Char) : List Char :=
  match source with
  | '#' :: '!' :: '[' :: _ => []
  | '#' :: '!' :: rest =>
      if rest.contains '\n' then source.takeWhile (· != '\n') else []
  | _ => []

/-- The front that is not read: a byte order mark, then a first line that names
an interpreter. -/
def preamble (source : List Char) : List Char :=
  match source with
  | '\ufeff' :: rest => '\ufeff' :: interpreterLine rest
  | _ => interpreterLine source

/-- The tokens of a source. -/
def tokens (source : List Char) : List Token :=
  let front := preamble source
  let rest := source.drop front.length
  tokensFrom rest.length (Place.after {} front) rest

end ApiCatalog.Rust
