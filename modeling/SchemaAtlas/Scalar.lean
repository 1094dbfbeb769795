import SchemaAtlas.Value.Basic

namespace SchemaAtlas

/-!
Data cells and data rows of tables.
-/

/-- One cell of data. -/
inductive Scalar where
  | null
  | bool (b : Bool)
  | int (n : Int)
  | real (x : Binary64)
  | text (t : Text)
deriving DecidableEq

/-- One row of data: cells under the names of columns, or cells by position alone. -/
inductive Row where
  | keyed (cells : Keyed Scalar)
  | positional (cells : List Scalar)
deriving DecidableEq

namespace Scalar

def toValue : Scalar -> Value
  | .null => .null
  | .bool b => .bool b
  | .int n => .int n
  | .real x => .real x
  | .text t => .text t

end Scalar

namespace Row

def toValue : Row -> Value
  | .keyed cells => .mapping (cells.map fun cell => (cell.1, cell.2.toValue))
  | .positional cells => .list (cells.map Scalar.toValue)

/-- Cells beside the names of columns, position by position.  Cells beyond the last name are left
out, and names beyond the last cell stand beside an empty one. -/
def align : List Text -> List Scalar -> List (Text × Scalar)
  | [], _ => []
  | name :: names, [] => (name, .null) :: align names []
  | name :: names, cell :: cells => (name, cell) :: align names cells

/-- The row of cells under the names of columns. -/
def ofCells (names : List Text) (cells : List Scalar) : Row :=
  .keyed (Keyed.ofPairs (align names cells))

end Row
end SchemaAtlas
