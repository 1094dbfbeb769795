import SchemaAtlas.Text.Blank
import SchemaAtlas.Text.Slice

namespace SchemaAtlas

/-!
Statements of a script, each without the delimiter that ended it.
-/

/-- A statement: its text, the delimiter that was active, its place among the statements, and the
line where it begins. -/
structure Statement where
  text : Text
  delimiter : Text
  index : Nat
  line : Nat
deriving DecidableEq

namespace Statement

/-- The beginning of a text on one line, at most `size` characters; dots mark what was cut. -/
def headOf (size : Int) (text : Text) : Text :=
  let line := Text.oneSpaced text
  if (line.length : Int) ≤ size then line else sliceTo line (size - 3) ++ "...".toList

/-- The beginning of the statement on one line. -/
def head (s : Statement) (size : Int) : Text :=
  headOf size s.text

end Statement
end SchemaAtlas
