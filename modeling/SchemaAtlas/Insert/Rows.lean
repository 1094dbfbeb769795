import SchemaAtlas.Insert.Cell
import SchemaAtlas.Name.Qualified

namespace SchemaAtlas
namespace Insert

/-!
Rows and cells in the text of a list of values.

One character after another is read with the state of quoting and the depth of parentheses, so
commas, parentheses and quotes inside literals cut nothing.  A doubled quote needs no state of its
own: it closes a literal and opens the next one at once, and both quotes stay in the text.
-/

/-- Whether the text is outside literals, inside one, or behind a backslash inside one. -/
inductive Quoting where
  | plain
  | inside (quote : Char)
  | escaped (quote : Char)
deriving DecidableEq

namespace Quoting

/-- The state behind one more character. -/
def step : Quoting -> Char -> Quoting
  | .plain, c => if Literal.isQuote c then .inside c else .plain
  | .inside quote, c =>
    if c == '\\' then .escaped quote else if c == quote then .plain else .inside quote
  | .escaped quote, _ => .inside quote

end Quoting

/-- The state of the search for rows; the characters of the row that is open
stand last one first. -/
structure RowSearch where
  quoting : Quoting
  depth : Nat
  reversed : Text
deriving DecidableEq

namespace RowSearch

def start : RowSearch := ⟨.plain, 0, []⟩

/-- A character that cuts nothing belongs to the open row, if there is one. -/
def keep (s : RowSearch) (c : Char) : RowSearch :=
  { s with
    quoting := s.quoting.step c
    reversed := if s.depth == 0 then s.reversed else c :: s.reversed }

/-- One more character, and the row that it completes. -/
def step (s : RowSearch) (c : Char) : RowSearch × Option Text :=
  if s.quoting == .plain && c == '(' then
    (if s.depth == 0 then ⟨.plain, 1, []⟩ else ⟨.plain, s.depth + 1, c :: s.reversed⟩, none)
  else if s.quoting == .plain && c == ')' && 0 < s.depth then
    if s.depth == 1 then (⟨.plain, 0, []⟩, some s.reversed.reverse)
    else (⟨.plain, s.depth - 1, c :: s.reversed⟩, none)
  else (s.keep c, none)

def rows (s : RowSearch) : Text -> List Text
  | [] => []
  | c :: rest => (s.step c).2.toList ++ (s.step c).1.rows rest

def after (s : RowSearch) (t : Text) : RowSearch :=
  t.foldl (fun state c => (state.step c).1) s

end RowSearch

/-- The texts inside the outermost parentheses.  A group that is not closed is left out. -/
def rowTexts (values : Text) : List Text :=
  RowSearch.start.rows values

/-- The number of steps in which a text is taken up, where a doubled quote
inside a literal is one step. -/
def stepCount : Quoting -> Text -> Nat
  | _, [] => 0
  | _, [_] => 1
  | .inside quote, c :: d :: rest =>
    if c == quote && d == quote then 1 + stepCount (.inside quote) rest
    else 1 + stepCount (Quoting.step (.inside quote) c) (d :: rest)
  | quoting, c :: d :: rest => 1 + stepCount (quoting.step c) (d :: rest)

/-- The size of the group that is still open at the end of a text. -/
def openGroupSize? (values : Text) : Option Nat :=
  let last := RowSearch.start.after values
  if last.depth == 0 then none else some (stepCount .plain last.reversed.reverse)

/-- The depth of parentheses behind one more character.  A closing parenthesis without an opening
one counts for nothing. -/
def cellDepth (quoting : Quoting) (depth : Nat) (c : Char) : Nat :=
  if quoting == .plain && c == '(' then depth + 1
  else if quoting == .plain && c == ')' then depth - 1
  else depth

/-- The pieces of a row between the commas outside literals and parentheses. -/
def cellPieces : Quoting -> Nat -> Text -> List Text
  | _, _, [] => [[]]
  | quoting, depth, c :: rest =>
    if quoting == .plain && c == ',' && depth == 0 then [] :: cellPieces .plain 0 rest
    else Name.ontoFirst c (cellPieces (quoting.step c) (cellDepth quoting depth c) rest)

/-- The texts of the cells of a row; an empty row has none. -/
def cellTexts (row : Text) : List Text :=
  if row.isEmpty then [] else cellPieces .plain 0 row

def cells (row : Text) : Except NumeralError (List Scalar) :=
  (cellTexts row).mapM Scalar.ofText

end Insert
end SchemaAtlas
