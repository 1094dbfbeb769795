import SchemaAtlas.Insert.Rows
import SchemaAtlas.Name.Phrase

namespace SchemaAtlas

/-!
Insertions: the table, the columns named for the values, and the values by position.
-/

/-- The data of one insertion. -/
structure Insert where
  table : Text
  columns : List Text
  values : List (List Scalar)
  schema : Option Text
deriving DecidableEq

namespace Insert

/-- The parts of an insertion as they are spelled. -/
structure Spelling where
  table : Text
  columns : Option Text
  values : Text
deriving DecidableEq

/-- The text between parentheses, up to the nearest closing one. -/
def columnList : Phrase Text
  | '(' :: rest =>
    match rest.dropWhile (· != ')') with
    | _ :: after => [(rest.takeWhile (· != ')'), after)]
    | [] => []
  | _ => []

def remainder : Phrase Text :=
  fun t => [(t, [])]

def form : Phrase Spelling := do
  Phrase.keyword "insert".toList
  Phrase.optional (Phrase.keyword "ignore".toList)
  Phrase.keyword "into".toList
  let table <- Name.spelling
  Phrase.blanks
  let columns <- Phrase.optionally columnList
  Phrase.blanks
  Phrase.letters "values".toList
  Phrase.blanks
  let values <- remainder
  Phrase.give ⟨table, columns, values⟩

/-- The spelling of the first insertion in a text. -/
def spelling? (t : Text) : Option Spelling :=
  (Phrase.search? form t).map Prod.fst

def columnNames (list : Text) : List Text :=
  ((Text.splitOn ',' list).filter fun name => !Text.isBlankText name).map Name.stripQuotes

/-- The data of the insertion in a text.  There is none where the text has no such form
or the table has no name. -/
def ofText (t : Text) : Except NumeralError (Option Insert) :=
  match spelling? t with
  | none => .ok none
  | some spelled =>
    let name := QualifiedName.ofText spelled.table
    if name.table.isEmpty then .ok none
    else
      match (rowTexts spelled.values).mapM cells with
      | .error e => .error e
      | .ok values =>
        .ok (some ⟨name.table, columnNames (spelled.columns.getD []), values, name.schema⟩)

def rowsUnder (names : List Text) (values : List (List Scalar)) : List Row :=
  values.map (Row.ofCells names)

/-- The rows under the names of columns that the insertion gives. -/
def rows (i : Insert) : List Row :=
  rowsUnder i.columns i.values

end Insert
end SchemaAtlas
