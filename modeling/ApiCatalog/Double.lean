/-!
# Numbers with a fraction

Numbers with a fraction have double precision: 53 binary digits and an exponent
of limited range. A decimal number that is read stands for the nearest of them,
at equal distance for the one whose last digit is even. Written out, such a
number has as few decimal digits as tell it from its neighbours. Both directions
are worked out on whole numbers, with one rounding at the end.
-/

namespace ApiCatalog

/-- A number `± mantissa · 2 ^ exponent`, or one of the special ones. The
mantissa has 53 binary digits, or fewer where the exponent is the smallest
one. -/
inductive Double where
  | finite (negative : Bool) (mantissa : Nat) (exponent : Int)
  | infinite (negative : Bool)
  | undefined
deriving DecidableEq, Repr

namespace Double

/-- The exponents of finite numbers lie between these two. -/
def minExponent : Int := -1074

@[inherit_doc minExponent]
def maxExponent : Int := 971

/-- `n · base ^ exponent` as a fraction. -/
def scaled (n base : Nat) (exponent : Int) : Nat × Nat :=
  (n * Nat.pow base exponent.toNat, Nat.pow base (-exponent).toNat)

/-- The whole number nearest to `n / d`; at equal distance the even one. -/
def divRound (n d : Nat) : Nat :=
  let q := n / d
  let r := n % d
  if 2 * r < d || (2 * r == d && q % 2 == 0) then q else q + 1

/-- The exponent of the highest binary digit of `n / d`. -/
def log2Ratio (n d : Nat) : Int :=
  let bound : Int := n.log2 - d.log2
  let (m, e) := scaled d 2 bound
  if m ≤ n * e then bound else bound - 1

/-- The number nearest to `n / d`. -/
def ofRatio (negative : Bool) (n d : Nat) : Double :=
  if n == 0 then .finite negative 0 minExponent
  else
    let place := log2Ratio n d - 52
    let exponent := if place < minExponent then minExponent else place
    let (m, e) := scaled d 2 exponent
    let mantissa := divRound (n * e) m
    -- rounding up can take one binary digit more
    let (mantissa, exponent) :=
      if mantissa == Nat.pow 2 53 then (Nat.pow 2 52, exponent + 1)
      else (mantissa, exponent)
    if maxExponent < exponent then .infinite negative
    else .finite negative mantissa exponent

/-- The number nearest to `digits · 10 ^ exponent`. Far outside the range of
finite numbers only the place of the first digit counts. -/
def ofDecimal (negative : Bool) (digits : Nat) (exponent : Int) : Double :=
  let point := (Nat.toDigits 10 digits).length + exponent
  if digits == 0 || point < -400 then .finite negative 0 minExponent
  else if 400 < point then .infinite negative
  else
    let (n, d) := scaled digits 10 exponent
    ofRatio negative n d

/-- The integer a number stands for, if it has no fraction. -/
def toInt? : Double → Option Int
  | .finite negative mantissa exponent =>
      let (n, d) := scaled mantissa 2 exponent
      if n % d == 0 then
        some (if negative then -((n / d : Nat) : Int) else (n / d : Nat))
      else none
  | _ => none

/-! ## Decimal digits -/

/-- The place of the point of `n / d`, counted from its first decimal digit; the
search starts from a place that is not too high. -/
def pointOf (n d : Nat) : Nat → Int → Int
  | 0, point => point
  | fuel + 1, point =>
      let (m, e) := scaled d 10 point
      if m ≤ n * e then pointOf n d fuel (point + 1) else point

/-- The decimal of so many digits that stands for a number and is nearest to it,
if one does. -/
def decimalOf? (mantissa : Nat) (exponent point : Int) (count : Nat) :
    Option (Nat × Int) :=
  let places := point - count
  let (n, d) := scaled mantissa 2 exponent
  let (m, e) := scaled d 10 places
  let low := n * e / m
  let near := divRound (n * e) m
  let far := if near == low then low + 1 else low
  ([near, far].find? fun digits =>
      ofDecimal false digits places == .finite false mantissa exponent).map
    fun digits => (digits, places)

/-- The shortest decimal that stands for a number. -/
def shortest (mantissa : Nat) (exponent : Int) : Nat × Int :=
  let (n, d) := scaled mantissa 2 exponent
  let point := pointOf n d 700 (-330)
  let counts := (List.range 17).map (· + 1)
  (counts.findSome? (decimalOf? mantissa exponent point)).getD (mantissa, exponent)

/-- A decimal as messages show it: positional while the leading digit stands
between the places 10⁻⁴ and 10¹⁵, with an exponent of at least two digits
otherwise. -/
def decimalText (digits : Nat) (exponent : Int) : String :=
  let ds := ((Nat.toDigits 10 digits).reverse.dropWhile (· == '0')).reverse
  let point := ((Nat.toDigits 10 digits).length : Int) + exponent
  if -4 < point && point ≤ 16 then
    if point ≤ 0 then
      "0." ++ String.ofList (List.replicate (-point).toNat '0' ++ ds)
    else
      let whole := ds.take point.toNat ++
        List.replicate (point.toNat - ds.length) '0'
      let part := ds.drop point.toNat
      String.ofList whole ++ "." ++
        (if part.isEmpty then "0" else String.ofList part)
  else
    let e := point - 1
    let mark := if e < 0 then "e-" else "e+"
    let places := Nat.toDigits 10 e.natAbs
    let part := ds.drop 1
    String.ofList (ds.take 1) ++
      (if part.isEmpty then "" else "." ++ String.ofList part) ++ mark ++
      (if places.length < 2 then "0" else "") ++ String.ofList places

/-- A number as messages show it. -/
def text : Double → String
  | .undefined => "nan"
  | .infinite negative => if negative then "-inf" else "inf"
  | .finite negative mantissa exponent =>
      let (digits, places) := shortest mantissa exponent
      (if negative then "-" else "") ++
        (if mantissa == 0 then "0.0" else decimalText digits places)

end Double
end ApiCatalog
