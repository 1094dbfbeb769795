import SchemaAtlas.Number.Numeral
import SchemaAtlas.Number.Shortest
import SchemaAtlas.Engine.Yaml.Symbol
import SchemaAtlas.Value.Basic

namespace SchemaAtlas
namespace Yaml

/-!
The values of scalars.  A plain scalar spells a number, a truth value or nothing, and is a text
otherwise; a tag can ask for one of these.
-/

def trueWords : List Text :=
  ["yes", "Yes", "YES", "true", "True", "TRUE", "on", "On", "ON"]

def falseWords : List Text :=
  ["no", "No", "NO", "false", "False", "FALSE", "off", "Off", "OFF"]

def nullWords : List Text :=
  [[], "~", "null", "Null", "NULL"]

/-- Digits with underscores among them, with the underscores removed. -/
def grouped? (isDigit : Char -> Bool) (t : Text) : Option Text :=
  if !t.isEmpty && t.all fun c => isDigit c || c == '_' then some (t.filter (· != '_')) else none

/-- A part of a number of base sixty behind its first colon. -/
def isSixtieth : Text -> Bool
  | [c] => c.isDigit
  | [c, d] => '0' ≤ c && c ≤ '5' && d.isDigit
  | _ => false

/-- The number that parts of base sixty denote, the greatest part first. -/
def inSixties (parts : List Text) : Nat :=
  parts.foldl (fun n part => 60 * n + inBase 10 part) 0

/-- A whole number of base sixty: decimal digits and parts behind colons. -/
def sixties? (t : Text) : Option Nat :=
  match Text.splitOn ':' t with
  | first :: part :: parts =>
    if (part :: parts).all isSixtieth then
      (grouped? Char.isDigit first).map fun digits => inSixties (digits :: part :: parts)
    else none
  | _ => none

/-- The magnitude of an integer: binary, octal, hexadecimal or decimal by its
beginning, or of base sixty. -/
def magnitude? : Text -> Option Nat
  | '0' :: 'b' :: rest => (grouped? (fun c => c == '0' || c == '1') rest).map (inBase 2)
  | '0' :: 'x' :: rest => (grouped? isHexDigit rest).map (inBase 16)
  | ['0'] => some 0
  | '0' :: rest => (grouped? (fun c => '0' ≤ c && c ≤ '7') rest).map (inBase 8)
  | c :: rest =>
    if c.isDigit then
      match grouped? Char.isDigit (c :: rest) with
      | some digits => some (inBase 10 digits)
      | none => sixties? (c :: rest)
    else none
  | [] => none

def integer? (t : Text) : Option Int :=
  let (negative, unsigned) := Numeral.readSign t
  (magnitude? unsigned).map fun n => if negative then -(n : Int) else n

/-- The digits of a number in front of its exponent: at least one digit, which comes first. -/
def isDigitRun (t : Text) : Bool :=
  match t with
  | c :: rest => c.isDigit && rest.all fun d => d.isDigit || d == '_'
  | [] => false

/-- The end of a number behind its point: digits, and an exponent with a sign. -/
def isFraction (t : Text) : Bool :=
  match t.dropWhile fun c => c.isDigit || c == '_' with
  | [] => true
  | e :: s :: digits =>
    (e == 'e' || e == 'E') && (s == '+' || s == '-') && !digits.isEmpty && digits.all Char.isDigit
  | [_] => false

/-- The number with a decimal point that a scalar spells.  Without a digit in front of the point it
has one behind it and no sign. -/
def real? (t : Text) : Option Binary64 :=
  let unsigned := (Numeral.readSign t).2
  let whole := unsigned.takeWhile (· != '.')
  let behind := unsigned.drop whole.length
  let fits :=
    match behind with
    | '.' :: fraction =>
      isFraction fraction
        && (if whole.isEmpty then t.head? == some '.' && fraction.head?.any Char.isDigit
          else isDigitRun whole)
    | _ => false
  if fits then (Numeral.ofText? (t.filter (· != '_'))).map Numeral.toBinary64 else none

/-- The number of base sixty with a decimal point that a scalar spells. -/
def sixtiesReal? (t : Text) : Option Binary64 :=
  let (negative, unsigned) := Numeral.readSign t
  let whole := unsigned.takeWhile (· != '.')
  match unsigned.drop whole.length with
  | '.' :: fraction =>
    let digits := fraction.filter (· != '_')
    if digits.all Char.isDigit && unsigned.head?.any Char.isDigit then
      (sixties? whole).map fun n =>
        Binary64.ofDecimal negative (n * Nat.pow 10 digits.length + inBase 10 digits)
          (-(digits.length : Int))
    else none
  | _ => none

/-- The infinite number that a scalar spells. -/
def infinity? (t : Text) : Option Binary64 :=
  let (negative, unsigned) := Numeral.readSign t
  if unsigned == ".inf".toList || unsigned == ".Inf".toList || unsigned == ".INF".toList then
    some (.infinite negative)
  else none

def number? (t : Text) : Option Value :=
  (((integer? t).map Value.int).or ((real? t).map Value.real)).or
    (((sixtiesReal? t).map Value.real).or ((infinity? t).map Value.real))

def truth? (t : Text) : Option Bool :=
  if trueWords.contains t then some true
  else if falseWords.contains t then some false
  else none

def plainValue (t : Text) : Value :=
  if nullWords.contains t then .null
  else
    match truth? t, number? t with
    | some b, _ => .bool b
    | none, some n => n
    | none, none => .text t

/-- A plain scalar that stands for the entries of other mappings or for a default, and
is no value of its own. -/
def isSpecial (t : Text) : Bool :=
  t == "<<".toList || t == ['=']

def taggedValue? (tag t : Text) : Option Value :=
  if tag == standardTag ++ "str".toList then some (.text t)
  else if tag == standardTag ++ "null".toList then some .null
  else if tag == standardTag ++ "bool".toList then (truth? t).map Value.bool
  else if tag == standardTag ++ "int".toList then (integer? t).map Value.int
  else if tag == standardTag ++ "float".toList then
    match number? t with
    | some (.real x) => some (.real x)
    | some (.int n) => some (.real (Binary64.ofDecimal (decide (n < 0)) n.natAbs 0))
    | _ => none
  else none

/-- The key of a mapping as a text, unless it is a collection. -/
def keyText? : Value -> Option Text
  | .text t => some t
  | .int n => some (Text.ofInt n)
  | .bool b => some (if b then "true" else "false")
  | .real x => some x.format
  | .null => some "null"
  | .list _ => none
  | .mapping _ => none

end Yaml
end SchemaAtlas
