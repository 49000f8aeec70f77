/-!
# `SchemaTypes.Json.Binary64`: doubles in exact arithmetic

A JSON number with a fraction or an exponent denotes the double nearest
to it, and is written back with the fewest digits that denote the same
double. Both directions are computed on natural numbers: a finite double
is `mantissa * 2 ^ exponent`, so no operation on machine floats is
needed and every step can be reasoned about.

Writing tries one digit, then two, and so on. On each decimal grid only
the two neighbours of the value can lie in the interval of numbers that
round to it; the first grid with a hit wins, and of two hits the nearer.
-/

set_option autoImplicit false

namespace SchemaTypes.Json

/-- A double. A finite one is `mantissa * 2 ^ exponent` with the sign
given by `negative`; the mantissa is below `2 ^ 53`. -/
inductive Binary64 where
  | finite (negative : Bool) (mantissa : Nat) (exponent : Int)
  | infinite (negative : Bool)
  | nan
deriving Repr, DecidableEq, Inhabited

namespace Binary64

/-- The least exponent of a double. -/
def minExponent : Int := -1074

/-- The greatest exponent of a finite double. -/
def maxExponent : Int := 971

/-- `num / den` rounded to the nearest natural number; a half goes to
the even neighbour. -/
def roundDiv (num den : Nat) : Nat :=
  let q := num / den
  let twice := 2 * (num % den)
  if twice < den || (twice == den && q % 2 == 0) then q else q + 1

/-- `num / den` over `2 ^ e`, as a numerator and a denominator. -/
def scaleDown (num den : Nat) (e : Int) : Nat × Nat :=
  if e < 0 then (num * Nat.pow 2 (-e).toNat, den) else (num, den * Nat.pow 2 e.toNat)

/-- The double nearest to `num / den`, for a positive numerator. -/
def ofRatio (negative : Bool) (num den : Nat) : Binary64 :=
  -- The quotient lies strictly between 2 ^ (size - 1) and 2 ^ (size + 1).
  let size : Int := Int.ofNat num.log2 - Int.ofNat den.log2
  let coarse := scaleDown num den (size - 52)
  let wanted := if coarse.1 < coarse.2 * Nat.pow 2 52 then size - 53 else size - 52
  let e := max wanted minExponent
  let scaled := scaleDown num den e
  let m := roundDiv scaled.1 scaled.2
  let (m, e) := if m == Nat.pow 2 53 then (Nat.pow 2 52, e + 1) else (m, e)
  if maxExponent < e then .infinite negative else .finite negative m e

/-- The double nearest to `digits * 10 ^ e`. Exponents far outside the
range of doubles are answered without computing the power. -/
def ofDecimal (negative : Bool) (digits : Nat) (e : Int) : Binary64 :=
  let width : Int := (Nat.toDigits 10 digits).length
  if digits == 0 then .finite negative 0 0
  else if 310 < e + width then .infinite negative
  else if e + width < -330 then .finite negative 0 0
  else if e < 0 then ofRatio negative digits (Nat.pow 10 (-e).toNat)
  else ofRatio negative (digits * Nat.pow 10 e.toNat) 1

/-- A decimal: `digits * 10 ^ exponent`. -/
structure Decimal where
  digits : Nat
  exponent : Int
deriving Repr, DecidableEq, Inhabited

/-- Whether `digits * 10 ^ exponent` rounds to `m * 2 ^ e`. All sides are
multiplied by `4 * 10 ^ k * 2 ^ l`, large enough to clear the fractions.
Below a power of two the neighbour is at half the distance. -/
def denotes (m : Nat) (e : Int) (d : Decimal) : Bool :=
  let k := (-d.exponent).toNat
  let l := (-e).toNat
  let value := 4 * d.digits * Nat.pow 10 (d.exponent + k).toNat * Nat.pow 2 l
  let unit := Nat.pow 10 k * Nat.pow 2 (e + l).toNat
  let below := if m == Nat.pow 2 52 && minExponent < e then 1 else 2
  let low := (4 * m - below) * unit
  let high := (4 * m + 2) * unit
  if m % 2 == 0 then low ≤ value && value ≤ high else low < value && value < high

/-- `num / den` over `10 ^ p`, as a numerator and a denominator. -/
def scaleByTen (num den : Nat) (p : Int) : Nat × Nat :=
  if p < 0 then (num * Nat.pow 10 (-p).toNat, den) else (num, den * Nat.pow 10 p.toNat)

/-- The greatest `p` with `10 ^ p ≤ num / den`, searched downwards from
an upper bound. -/
def decimalSize (num den : Nat) : Nat → Int → Int
  | 0, p => p
  | fuel + 1, p =>
    let scaled := scaleByTen num den p
    if scaled.2 ≤ scaled.1 then p else decimalSize num den fuel (p - 1)

/-- The decimal with the fewest digits that denotes `m * 2 ^ e`, for a
positive mantissa. -/
def shortest (m : Nat) (e : Int) : Decimal :=
  let ratio := scaleDown m 1 (-e)
  let num := ratio.1
  let den := ratio.2
  -- Ten binary digits are a little more than three decimal ones.
  let guess : Int := (Int.ofNat num.log2 - Int.ofNat den.log2 + 1) * 30103 / 100000 + 2
  let size := decimalSize num den 6 guess
  let onGrid (count : Nat) : Option Decimal :=
    let p := size - count + 1
    let scaled := scaleByTen num den p
    let floor : Decimal := ⟨scaled.1 / scaled.2, p⟩
    let next : Decimal := ⟨scaled.1 / scaled.2 + 1, p⟩
    let nearer := if roundDiv scaled.1 scaled.2 == floor.digits then floor else next
    let farther := if nearer == floor then next else floor
    if denotes m e nearer then some nearer
    else if denotes m e farther then some farther
    else none
  ((List.range 17).findSome? fun i => onGrid (i + 1)).getD ⟨m, 0⟩

/-- Digits without the zeros at their end, with the number of zeros
removed. -/
def dropZeros (digits : List Char) : List Char × Nat :=
  let kept := (digits.reverse.dropWhile fun c => c == '0').reverse
  (kept, digits.length - kept.length)

/-- A decimal as text. A value below `10 ^ 16` and from `10 ^ -4` on is
written out, with at least one digit after the point; any other has an
exponent with a sign and at least two digits. -/
def Decimal.text (d : Decimal) : List Char :=
  let (digits, zeros) := dropZeros (Nat.toDigits 10 d.digits)
  -- The value is 0.DIGITS times ten to the power `point`.
  let point : Int := d.exponent + zeros + digits.length
  if -4 < point && point ≤ 16 then
    if point ≤ 0 then
      '0' :: '.' :: List.replicate (-point).toNat '0' ++ digits
    else
      let whole := digits.take point.toNat
      let fraction := digits.drop point.toNat
      whole ++ List.replicate (point.toNat - whole.length) '0' ++
        '.' :: (if fraction.isEmpty then ['0'] else fraction)
  else
    let e := point - 1
    let magnitude := Nat.toDigits 10 e.natAbs
    let padded := List.replicate (2 - magnitude.length) '0' ++ magnitude
    let fraction := digits.drop 1
    digits.take 1 ++ (if fraction.isEmpty then [] else '.' :: fraction) ++
      'e' :: (if e < 0 then '-' else '+') :: padded

/-- A double as JSON text. -/
def text : Binary64 → List Char
  | .finite negative m e =>
    (if negative then ['-'] else []) ++
      (if m == 0 then ['0', '.', '0'] else (shortest m e).text)
  | .infinite negative => (if negative then "-Infinity" else "Infinity").toList
  | .nan => "NaN".toList

/-- The integer that a double equals, if it equals one. -/
def toInt? : Binary64 → Option Int
  | .finite negative m e =>
    let signed (n : Nat) : Int := if negative then -(n : Int) else n
    if e < 0 then
      let unit := Nat.pow 2 (-e).toNat
      if m % unit == 0 then some (signed (m / unit)) else none
    else
      some (signed (m * Nat.pow 2 e.toNat))
  | _ => none

end Binary64

end SchemaTypes.Json
