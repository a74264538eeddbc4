import ApiCatalog.Text.Hex

/-!
# UTF-8

Decoding of bytes, with the place and the cause of the first fault. A fault
covers the lead byte and the continuations that were still fine, so a reader of
the message sees which bytes do not belong together.
-/

namespace ApiCatalog.Text.Utf8

/-- Why bytes are not UTF-8. -/
inductive Cause where
  /-- The byte can start no character. -/
  | invalidStart
  /-- The byte after the span cannot go on with it. -/
  | invalidContinuation
  /-- The input ends inside a character. -/
  | unexpectedEnd
deriving DecidableEq, Repr

/-- The first place where bytes stop being UTF-8. -/
structure Fault where
  /-- The first byte of the span. -/
  byte : UInt8
  /-- The place of that byte. -/
  position : Nat
  /-- The number of bytes in the span. -/
  length : Nat
  cause : Cause
deriving DecidableEq, Repr

/-- The wording of a cause. -/
def Cause.message : Cause → String
  | .invalidStart => "invalid start byte"
  | .invalidContinuation => "invalid continuation byte"
  | .unexpectedEnd => "unexpected end of data"

/-- The wording of a fault: one byte is named, several are given by their
places. -/
def Fault.message (f : Fault) : String :=
  let span :=
    if f.length == 1 then
      "byte 0x" ++ String.ofList (hexDigits 2 f.byte.toNat) ++
        " in position " ++ toString f.position
    else
      "bytes in position " ++ toString f.position ++ "-" ++
        toString (f.position + f.length - 1)
  "'utf-8' codec can't decode " ++ span ++ ": " ++ f.cause.message

/-- What a lead byte promises: the number of bytes after it, and the range of
the first of them. -/
inductive Lead where
  | single
  | two
  | three (low high : UInt8)
  | four (low high : UInt8)
  | invalid

/-- The promise of a lead byte. The narrow ranges keep out overlong forms,
surrogates and numbers past U+10FFFF. -/
def lead (b : UInt8) : Lead :=
  if b < 0x80 then .single
  else if b < 0xc2 then .invalid
  else if b < 0xe0 then .two
  else if b == 0xe0 then .three 0xa0 0xbf
  else if b == 0xed then .three 0x80 0x9f
  else if b < 0xf0 then .three 0x80 0xbf
  else if b == 0xf0 then .four 0x90 0xbf
  else if b < 0xf4 then .four 0x80 0xbf
  else if b == 0xf4 then .four 0x80 0x8f
  else .invalid

/-- Whether a byte lies in a range of continuations. -/
def within (low high b : UInt8) : Bool :=
  low ≤ b && b ≤ high

/-- The character whose number has the given groups of six bits. -/
def assemble (top : Nat) (tails : List UInt8) : Char :=
  Char.ofNat (tails.foldl (fun n b => 64 * n + b.toNat % 64) top)

/-- Decodes bytes that start at a place of a longer input. -/
def decodeFrom (position : Nat) : List UInt8 → Except Fault (List Char)
  | [] => .ok []
  | a :: rest =>
      let stop := fun length cause => Except.error ⟨a, position, length, cause⟩
      match lead a with
      | .invalid => stop 1 .invalidStart
      | .single => do
          let cs ← decodeFrom (position + 1) rest
          return Char.ofNat a.toNat :: cs
      | .two =>
          match rest with
          | [] => stop 1 .unexpectedEnd
          | b :: rest =>
              if within 0x80 0xbf b then do
                let cs ← decodeFrom (position + 2) rest
                return assemble (a.toNat % 32) [b] :: cs
              else stop 1 .invalidContinuation
      | .three low high =>
          match rest with
          | [] => stop 1 .unexpectedEnd
          | b :: rest =>
              if within low high b then
                match rest with
                | [] => stop 2 .unexpectedEnd
                | c :: rest =>
                    if within 0x80 0xbf c then do
                      let cs ← decodeFrom (position + 3) rest
                      return assemble (a.toNat % 16) [b, c] :: cs
                    else stop 2 .invalidContinuation
              else stop 1 .invalidContinuation
      | .four low high =>
          match rest with
          | [] => stop 1 .unexpectedEnd
          | b :: rest =>
              if within low high b then
                match rest with
                | [] => stop 2 .unexpectedEnd
                | c :: rest =>
                    if within 0x80 0xbf c then
                      match rest with
                      | [] => stop 3 .unexpectedEnd
                      | d :: rest =>
                          if within 0x80 0xbf d then do
                            let cs ← decodeFrom (position + 4) rest
                            return assemble (a.toNat % 8) [b, c, d] :: cs
                          else stop 3 .invalidContinuation
                    else stop 2 .invalidContinuation
              else stop 1 .invalidContinuation

/-- The characters that the bytes encode. -/
def decode (bytes : List UInt8) : Except Fault (List Char) :=
  decodeFrom 0 bytes

/-- The bytes that encode the characters. -/
def encode (cs : List Char) : List UInt8 :=
  cs.flatMap String.utf8EncodeChar

/-- The number of bytes that encode the characters. -/
def size (cs : List Char) : Nat :=
  cs.foldl (fun n c => n + c.utf8Size) 0

end ApiCatalog.Text.Utf8
