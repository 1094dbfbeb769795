import SchemaAtlas.Number.Binary64

namespace SchemaAtlas
namespace Binary64

/-!
The decimal text of a binary number.

The digits are the fewest that still identify the number: the reals that round to it form an
interval, and the shortest decimal grid with a point in that interval wins; of two such points the
nearer one is taken, and of two equally near ones the even one.  `format` then lays the digits out.
-/

/-- A decimal number `coefficient * 10 ^ exponent`. -/
structure Decimal where
  coefficient : Nat
  exponent : Int
deriving DecidableEq

/-- The reals that round to one number, as a fraction interval over a common denominator; its ends
belong to it when the mantissa is even. -/
structure Neighbourhood where
  low : Nat
  value : Nat
  high : Nat
  denominator : Nat
  closed : Bool

/-- The neighbourhood of a positive finite number.  Below a power of two the gap
is only half as wide. -/
def neighbourhood (mantissa : Nat) (exponent : Int) : Neighbourhood :=
  let (numerator, denominator) := fraction 1 (exponent - 2)
  let narrow := mantissa == Nat.pow 2 52 && leastExponent < exponent
  { low := (4 * mantissa - (if narrow then 1 else 2)) * numerator
    value := 4 * mantissa * numerator
    high := (4 * mantissa + 2) * numerator
    denominator := denominator
    closed := mantissa % 2 == 0 }

/-- A multiple of a power of ten, as a fraction. -/
def scaled (coefficient : Nat) (exponent : Int) : Nat × Nat :=
  if 0 ≤ exponent then (coefficient * Nat.pow 10 exponent.toNat, 1)
  else (coefficient, Nat.pow 10 (-exponent).toNat)

/-- A decimal number lies in the neighbourhood. -/
def Neighbourhood.holds (n : Neighbourhood) (d : Decimal) : Bool :=
  let (top, bottom) := scaled d.coefficient d.exponent
  let here := top * n.denominator
  if n.closed then n.low * bottom ≤ here && here ≤ n.high * bottom
  else n.low * bottom < here && here < n.high * bottom

/-- The least power of ten above a positive fraction, searched upwards from `start`. -/
def decimalOrderFrom (numerator denominator : Nat) : Nat -> Int -> Int
  | 0, start => start
  | steps + 1, start =>
    let (top, bottom) := scaled 1 start
    if numerator * bottom < top * denominator then start
    else decimalOrderFrom numerator denominator steps (start + 1)

/-- The least power of ten above a positive fraction. -/
def decimalOrder (numerator denominator : Nat) : Int :=
  let lengths : Int := (decimalLength numerator : Int) - (decimalLength denominator : Int)
  decimalOrderFrom numerator denominator 2 lengths

/-- The point of a decimal grid that identifies the number, if the grid has one. -/
def gridPoint? (n : Neighbourhood) (unit : Int) : Option Decimal :=
  let (top, bottom) := scaled 1 unit
  let below := (n.value * bottom) / (n.denominator * top)
  let lower : Decimal := ⟨below, unit⟩
  let upper : Decimal := ⟨below + 1, unit⟩
  let twice := 2 * (n.value * bottom)
  let middle := (2 * below + 1) * (n.denominator * top)
  let lowerNearer := twice < middle || (twice == middle && below % 2 == 0)
  match n.holds lower, n.holds upper with
  | true, true => some (if lowerNearer then lower else upper)
  | true, false => some lower
  | false, true => some upper
  | false, false => none

/-- The first grid, from coarse to fine, that has a point for the number. -/
def shortestFrom (n : Neighbourhood) : Nat -> Int -> Decimal
  | 0, unit => ⟨n.value / n.denominator, unit⟩
  | steps + 1, unit =>
    match gridPoint? n unit with
    | some point => point
    | none => shortestFrom n steps (unit - 1)

/-- The shortest decimal number that identifies a positive finite number. -/
def shortest (mantissa : Nat) (exponent : Int) : Decimal :=
  let n := neighbourhood mantissa exponent
  shortestFrom n 18 (decimalOrder n.value n.denominator - 1)

/-- The digits without their trailing zeros, which the layout writes itself. -/
def significantDigits (coefficient : Nat) : Text :=
  ((Text.ofNat coefficient).reverse.dropWhile (· == '0')).reverse

def zeros (n : Nat) : Text :=
  List.replicate n '0'

/-- Digits laid out around a decimal point that stands `point` places after their beginning.
Positional up to sixteen places before the point and four zeros after it; beyond that one digit, a
fraction if there are more, and a signed exponent of at least two digits. -/
def layOut (digits : Text) (point : Int) : Text :=
  if -4 < point && point ≤ 16 then
    if point ≤ 0 then "0.".toList ++ zeros (-point).toNat ++ digits
    else if (digits.length : Int) ≤ point then
      digits ++ zeros (point.toNat - digits.length) ++ ".0".toList
    else digits.take point.toNat ++ ['.'] ++ digits.drop point.toNat
  else
    let power := point - 1
    let shown := Text.ofNat power.natAbs
    digits.take 1
      ++ (if digits.length ≤ 1 then [] else '.' :: digits.drop 1)
      ++ ['e', if power < 0 then '-' else '+']
      ++ zeros (2 - shown.length) ++ shown

def sign (negative : Bool) : Text :=
  if negative then ['-'] else []

def format : Binary64 -> Text
  | .infinite negative => sign negative ++ "inf".toList
  | .finite negative mantissa exponent =>
    if mantissa == 0 then sign negative ++ "0.0".toList
    else
      let decimal := shortest mantissa exponent
      let all := Text.ofNat decimal.coefficient
      sign negative ++ layOut (significantDigits decimal.coefficient)
        (all.length + decimal.exponent)

/-- A number with exactly `places` digits after the point, the exact value rounded to the nearest
and a tie to the even digit. -/
def formatFixed (places : Nat) : Binary64 -> Text
  | .infinite negative => sign negative ++ "inf".toList
  | .finite negative mantissa exponent =>
    let (numerator, denominator) := fraction mantissa exponent
    let shown := Text.ofNat (roundedQuotient (numerator * Nat.pow 10 places) denominator)
    let padded := zeros (places + 1 - shown.length) ++ shown
    sign negative ++ padded.take (padded.length - places) ++ ['.']
      ++ padded.drop (padded.length - places)

end Binary64
end SchemaAtlas
