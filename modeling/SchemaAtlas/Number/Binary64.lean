import SchemaAtlas.Text.Basic

namespace SchemaAtlas

/-!
Binary floating-point numbers of 64 bits, as exact values.

A finite number is a sign, a mantissa below `2 ^ 53` and a power of two.  The mantissa has its full
53 bits unless the exponent is already the least one, so each number has one form; zero keeps its
sign.  Decimal numbers are rounded to the nearest such number, a tie to the even mantissa.
-/

/-- A binary floating-point number of 64 bits that is not an undefined result. -/
inductive Binary64 where
  | finite (negative : Bool) (mantissa : Nat) (exponent : Int)
  | infinite (negative : Bool)
deriving DecidableEq

namespace Binary64

def leastExponent : Int := -1074

def greatestExponent : Int := 971

def zero (negative : Bool) : Binary64 :=
  .finite negative 0 leastExponent

/-- A positive fraction rounded to the nearest whole number, a tie to the even one. -/
def roundedQuotient (numerator denominator : Nat) : Nat :=
  let quotient := numerator / denominator
  let remainder := numerator % denominator
  if denominator < 2 * remainder || (2 * remainder == denominator && quotient % 2 == 1) then
    quotient + 1
  else quotient

/-- The greatest power of two that is at most a positive fraction. -/
def binaryOrder (numerator denominator : Nat) : Int :=
  let guess : Int := (Nat.log2 numerator : Int) - (Nat.log2 denominator : Int)
  let reached :=
    if 0 ≤ guess then denominator * Nat.pow 2 guess.toNat ≤ numerator
    else denominator ≤ numerator * Nat.pow 2 (-guess).toNat
  if reached then guess else guess - 1

/-- The number nearest to a positive fraction. -/
def ofFraction (negative : Bool) (numerator denominator : Nat) : Binary64 :=
  let exponent := max (binaryOrder numerator denominator - 52) leastExponent
  let mantissa :=
    if 0 ≤ exponent then roundedQuotient numerator (denominator * Nat.pow 2 exponent.toNat)
    else roundedQuotient (numerator * Nat.pow 2 (-exponent).toNat) denominator
  let carried := mantissa == Nat.pow 2 53
  let exponent := if carried then exponent + 1 else exponent
  if greatestExponent < exponent then .infinite negative
  else .finite negative (if carried then Nat.pow 2 52 else mantissa) exponent

/-- The number of decimal digits of a number. -/
def decimalLength (n : Nat) : Nat :=
  (Nat.toDigits 10 n).length

/-- The number nearest to `coefficient * 10 ^ exponent`.  Magnitudes far outside the range are
recognised by their order alone, so that no huge power is formed for them. -/
def ofDecimal (negative : Bool) (coefficient : Nat) (exponent : Int) : Binary64 :=
  let order : Int := (decimalLength coefficient : Int) + exponent
  if coefficient == 0 || order < -330 then zero negative
  else if 310 < order then .infinite negative
  else if 0 ≤ exponent then ofFraction negative (coefficient * Nat.pow 10 exponent.toNat) 1
  else ofFraction negative coefficient (Nat.pow 10 (-exponent).toNat)

/-- The magnitude of a finite number as a fraction. -/
def fraction (mantissa : Nat) (exponent : Int) : Nat × Nat :=
  if 0 ≤ exponent then (mantissa * Nat.pow 2 exponent.toNat, 1)
  else (mantissa, Nat.pow 2 (-exponent).toNat)

/-- The number without its fractional digits; an infinite number has none. -/
def truncate? : Binary64 -> Option Int
  | .finite negative mantissa exponent =>
    let (numerator, denominator) := fraction mantissa exponent
    let whole : Int := numerator / denominator
    some (if negative then -whole else whole)
  | .infinite _ => none

/-- The integer that the number is exactly. -/
def toInt? : Binary64 -> Option Int
  | .finite negative mantissa exponent =>
    let (numerator, denominator) := fraction mantissa exponent
    if numerator % denominator == 0 then
      let whole : Int := numerator / denominator
      some (if negative then -whole else whole)
    else none
  | .infinite _ => none

def isZero : Binary64 -> Bool
  | .finite _ mantissa _ => mantissa == 0
  | .infinite _ => false

end Binary64
end SchemaAtlas
