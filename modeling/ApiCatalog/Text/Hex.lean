/-!
# Hexadecimal digits

Escapes in quoted texts and in JSON, and the byte shown in a decoding fault, are
written with lower-case digits and a fixed width.
-/

namespace ApiCatalog.Text

/-- The digit for a number below sixteen. -/
def hexDigit (n : Nat) : Char :=
  if n < 10 then Char.ofNat (0x30 + n) else Char.ofNat (0x57 + n)

/-- The last `width` hexadecimal digits of a number. -/
def hexDigits : Nat → Nat → List Char
  | 0, _ => []
  | width + 1, n => hexDigits width (n / 16) ++ [hexDigit (n % 16)]

/-- The value of a hexadecimal digit of either case. -/
def hexValue? (c : Char) : Option Nat :=
  let n := c.toNat
  if 0x30 ≤ n && n ≤ 0x39 then some (n - 0x30)
  else if 0x41 ≤ n && n ≤ 0x46 then some (n - 0x37)
  else if 0x61 ≤ n && n ≤ 0x66 then some (n - 0x57)
  else none

/-- The number that a run of hexadecimal digits stands for. -/
def hexNumber? (cs : List Char) : Option Nat :=
  cs.foldl
    (fun acc c =>
      match acc, hexValue? c with
      | some n, some d => some (16 * n + d)
      | _, _ => none)
    (some 0)

end ApiCatalog.Text
