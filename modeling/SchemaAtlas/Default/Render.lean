import SchemaAtlas.Default.Normal
import SchemaAtlas.Dialect.Table
import SchemaAtlas.Insert.Cell
import SchemaAtlas.Number.Shortest

namespace SchemaAtlas
namespace Default

/-!
Default values in a dialect.
-/

def sizeInParens : Phrase Unit := do
  Phrase.char '('
  let _ <- Phrase.runWhere Text.isDecimalDigit
  Phrase.char ')'

/-- The names of character types that a value may be converted to. -/
def textTypeName : Phrase Unit :=
  Phrase.either (do Phrase.keyword "character".toList; Phrase.letters "varying".toList)
    (Phrase.either (Phrase.letters "varchar".toList)
      (Phrase.either (Phrase.letters "text".toList) (Phrase.letters "bpchar".toList)))

def textCast : Phrase Unit := do
  Phrase.char ':'
  Phrase.char ':'
  Phrase.blanks
  textTypeName
  Phrase.wordEnd
  Phrase.optional sizeInParens

/-- The text without conversions to character types. -/
def withoutCasts (t : Text) : Text :=
  Phrase.replaceAll (fun _ => textCast) [] t

/-- The text without one single quote at either end and without outer white space. -/
def withoutApostrophes (t : Text) : Text :=
  let tail := if Text.startsWith t ['\''] then t.drop 1 else t
  Text.trim (if Text.endsWith tail ['\''] then tail.dropLast else tail)

def truthLiteral (d : Dialect) (t : Text) : Text :=
  if d.writesDigits then (if isTruthy t then "1" else "0") else truthWord (isTruthy t)

def isReal (base : Text) : Bool :=
  ["FLOAT".toList, "DOUBLE".toList, "REAL".toList, "DECIMAL".toList, "NUMERIC".toList].contains base

/-- A binary number in a definition: whole numbers below `10 ^ 16` have no fraction. -/
def realText (x : Binary64) : Text :=
  match x.toInt? with
  | some n => if n.natAbs < Nat.pow 10 16 then Text.ofInt n else x.format
  | none => x.format

/-- The integer at the beginning of a text, or the fallback where none stands there. -/
def integerOr (fallback t : Text) : Except NumeralError Text :=
  let (negative, unsigned) := Numeral.readSign t
  match unsigned.takeWhile Text.isDecimalDigit with
  | [] => .ok fallback
  | d :: ds =>
    match Numeral.toInt? negative (d :: ds) with
    | some n => .ok (Text.ofInt n)
    | none => .error .tooManyDigits

/-- The number at the beginning of a text, or the fallback where none stands there. -/
def realOr (fallback t : Text) : Text :=
  match Numeral.read? t with
  | some (n, _) => realText n.toBinary64
  | none => fallback

/-- The default value of a number column; `t` is the value without conversions. -/
def numeric (base t : Text) : Except NumeralError Text :=
  let bare := withoutApostrophes t
  let u := Text.upper base
  if Text.has "INT".toList u then
    if bare.isEmpty then .ok "0" else integerOr t bare
  else if isReal u then
    .ok (if bare.isEmpty then "0" else realOr t bare)
  else .ok t

/-- A default value in a dialect, where one is written at all. -/
def render (d : Dialect) (value base : Text) (length : Option Text) :
    Except NumeralError (Option Text) :=
  let t := Text.trim (withoutCasts value)
  if t.isEmpty then .ok none
  else if d == .sqlite && Text.has "now(".toList (Text.lower t) then .ok none
  else if d != .mysql && Phrase.holds renewedTime t then .ok (some "CURRENT_TIMESTAMP")
  else if Text.upper t == "NULL".toList then .ok (some "NULL")
  else if TypeText.isBoolean base length then .ok (some (truthLiteral d t))
  else (numeric base t).map some

/-- A default value in the dialect that a value names.  Where there is no default value, nothing is
written in any dialect, known or not. -/
def renderFor (value : Option Text) (base : Text) (dialect : Value) (length : Option Text) :
    Except Fault (Option Text) :=
  match value with
  | none => .ok none
  | some t =>
    match Dialect.ofValue dialect with
    | .error f => .error (.failure f)
    | .ok d =>
      match render d t base length with
      | .error .tooManyDigits => .error .tooManyDigits
      | .ok rendered => .ok rendered

end Default
end SchemaAtlas
