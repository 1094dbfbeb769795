import SchemaAtlas.Literal
import SchemaAtlas.Number.Numeral
import SchemaAtlas.Scalar
import SchemaAtlas.Text.Case

namespace SchemaAtlas

/-!
The meaning of one written cell: an empty cell, a truth value, a literal, a number, or the text
itself.
-/

/-- Why a number cannot be read. -/
inductive NumeralError where
  | tooManyDigits
deriving DecidableEq

namespace Scalar

/-- The number that a text spells, or the text itself. -/
def ofNumeral (t : Text) : Except NumeralError Scalar :=
  match Numeral.ofText? t with
  | none => .ok (.text t)
  | some n =>
    if n.isWhole then
      match Numeral.toInt? n.negative n.whole with
      | some value => .ok (.int value)
      | none => .error .tooManyDigits
    else .ok (.real n.toBinary64)

/-- The cell that a text spells, outer white space apart. -/
def ofText (spelled : Text) : Except NumeralError Scalar :=
  let t := Text.trim spelled
  let u := Text.upper t
  if u == "NULL".toList then .ok .null
  else if u == "TRUE".toList then .ok (.bool true)
  else if u == "FALSE".toList then .ok (.bool false)
  else
    match Literal.enclosingQuote? t with
    | some quote => .ok (.text (Literal.decode (Name.withoutEnds t) quote))
    | none => ofNumeral t

end Scalar
end SchemaAtlas
