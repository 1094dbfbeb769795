import SchemaAtlas.Number.Binary64
import SchemaAtlas.Text.Digit

namespace SchemaAtlas

/-!
Numerals: a sign, digits with at most one decimal point among them, and an exponent.

Each part is taken as far as it goes, so a numeral at the beginning of a text is found in one pass,
and a text is a numeral when nothing follows.  Digits of every script count.
-/

/-- A number as it is written. -/
structure Numeral where
  negative : Bool
  whole : Text
  point : Bool
  fraction : Text
  exponent : Option (Bool × Text)
deriving DecidableEq

namespace Numeral

/-- An optional sign at the beginning of a text: whether it is a minus, and what follows. -/
def readSign : Text -> Bool × Text
  | '-' :: rest => (true, rest)
  | '+' :: rest => (false, rest)
  | t => (false, t)

/-- An exponent at the beginning of a text, where at least one digit follows its mark. -/
def readExponent : Text -> Option (Bool × Text) × Text
  | [] => (none, [])
  | c :: rest =>
    if c == 'e' || c == 'E' then
      let (negative, after) := readSign rest
      match after.takeWhile Text.isDecimalDigit with
      | [] => (none, c :: rest)
      | d :: ds => (some (negative, d :: ds), after.dropWhile Text.isDecimalDigit)
    else (none, c :: rest)

/-- A fraction at the beginning of a text: whether a point stands there, and its digits.  A point
alone counts only after digits. -/
def readFraction (afterDigits : Bool) : Text -> Bool × Text × Text
  | '.' :: rest =>
    let digits := rest.takeWhile Text.isDecimalDigit
    if afterDigits || !digits.isEmpty then
      (true, digits, rest.dropWhile Text.isDecimalDigit)
    else (false, [], '.' :: rest)
  | t => (false, [], t)

/-- The numeral at the beginning of a text, and what follows it. -/
def read? (t : Text) : Option (Numeral × Text) :=
  let (negative, unsigned) := readSign t
  let whole := unsigned.takeWhile Text.isDecimalDigit
  let (point, fraction, afterFraction) :=
    readFraction (!whole.isEmpty) (unsigned.dropWhile Text.isDecimalDigit)
  if whole.isEmpty && fraction.isEmpty then none
  else
    let (exponent, rest) := readExponent afterFraction
    some (⟨negative, whole, point, fraction, exponent⟩, rest)

def ofText? (t : Text) : Option Numeral :=
  match read? t with
  | some (numeral, []) => some numeral
  | _ => none

/-- The numeral has neither point nor exponent. -/
def isWhole (n : Numeral) : Bool :=
  !n.point && n.exponent.isNone

/-- The power of ten that the exponent adds. -/
def power (n : Numeral) : Int :=
  match n.exponent with
  | none => 0
  | some (true, digits) => -(Text.digitsToNat digits : Int)
  | some (false, digits) => Text.digitsToNat digits

/-- The digits before and after the point as one number. -/
def coefficient (n : Numeral) : Nat :=
  Text.digitsToNat (n.whole ++ n.fraction)

def toBinary64 (n : Numeral) : Binary64 :=
  Binary64.ofDecimal n.negative n.coefficient (n.power - n.fraction.length)

/-- The most digits that an integer may be read from. -/
def digitLimit : Nat := 4300

/-- The integer of a sign and digits, unless there are too many digits. -/
def toInt? (negative : Bool) (digits : Text) : Option Int :=
  if digitLimit < digits.length then none
  else
    let magnitude : Int := Text.digitsToNat digits
    some (if negative then -magnitude else magnitude)

end Numeral
end SchemaAtlas
