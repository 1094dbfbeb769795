import SchemaAtlas.Text.Blank
import SchemaAtlas.Text.Case
import SchemaAtlas.Text.Digit
import SchemaAtlas.Text.Phrase

namespace SchemaAtlas
namespace StoredType

/-!
Types of columns in a database file, as columns of a schema have them.

A database takes any text for a type.  Words inside that text decide the type in the schema, and
the order of the words settles texts with several of them.
-/

/-- Words of declared types with the types that they mean, earlier ones preferred. -/
def meanings : List (List Text × Text) :=
  [(["NVARCHAR"], "VARCHAR"),
   (["INT"], "BIGINT"),
   (["CHAR", "CLOB", "TEXT"], "TEXT"),
   (["BLOB"], "BLOB"),
   (["REAL", "FLOA", "DOUB"], "DOUBLE"),
   (["NUMERIC", "DECIMAL"], "DECIMAL"),
   (["BOOLEAN"], "TINYINT"),
   (["TIMESTAMP"], "TIMESTAMP"),
   (["DATE", "TIME"], "DATETIME")]

/-- The type that a declared type means.  No declaration means text, and a declaration without any
of the words stands for itself. -/
def baseType (declared : Text) : Text :=
  if declared.isEmpty then "TEXT"
  else
    let word := Text.upper (Text.trim declared)
    match meanings.find? fun meaning => meaning.1.any fun part => Text.has part word with
    | some meaning => meaning.2
    | none => declared

def sizeForm : Phrase Text := do
  Phrase.char '('
  let digits <- Phrase.runWhere Text.isDecimalDigit
  Phrase.char ')'
  Phrase.give digits

/-- The size that a declared type names.  The size of a truth value is one, whatever is named. -/
def size? (declared : Text) : Option Text :=
  if Text.has "BOOL".toList (Text.upper declared) then some "1"
  else (Phrase.search? sizeForm declared).map Prod.fst

/-- The length of a column: the size that its type names, and for large whole numbers the usual one
where none is named. -/
def length? (declared : Text) : Option Text :=
  match size? declared with
  | some size => some size
  | none => if baseType declared == "BIGINT".toList then some "20" else none

/-- The type of columns that number their rows. -/
def isInteger (declared : Text) : Bool :=
  Text.upper (Text.trim declared) == "INTEGER".toList

end StoredType
end SchemaAtlas
