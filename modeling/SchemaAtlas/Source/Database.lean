import SchemaAtlas.Default.Normal
import SchemaAtlas.Name.Snake
import SchemaAtlas.Reference.Depth
import SchemaAtlas.Script.Options
import SchemaAtlas.Script.Report
import SchemaAtlas.Source.StoredType

namespace SchemaAtlas

/-!
The contents of a database file, and the schema that they make.

Columns and rows come on two ways, the declarations of a table and the names above its rows, and
both ways turn names into snake case.  Of declarations with one name the first one counts, and of
cells with one name the last one.
-/

/-- A cell of stored data: a cell of a schema, or bytes. -/
inductive StoredCell where
  | scalar (s : Scalar)
  | bytes (bs : List UInt8)
deriving DecidableEq

/-- The declaration of a stored column. -/
structure StoredColumn where
  name : Text
  declared : Text
  required : Bool
  default : Option Text
  isKey : Bool
deriving DecidableEq

/-- A stored table: its columns, the names above its rows, and the rows. -/
structure StoredTable where
  name : Text
  columns : List StoredColumn
  headings : List Text
  rows : List (List StoredCell)
deriving DecidableEq

/-- The steps of reading a database. -/
inductive DatabaseStage where
  | opening
  | listing
  | declarations
  | rows
deriving DecidableEq

/-- What a database holds, or the step at which reading it goes wrong, with a message. -/
structure Database where
  tables : List StoredTable
  trouble : Option (DatabaseStage × Text)

namespace StoredCell

/-- The cell of a schema; bytes are written in base sixteen. -/
def toScalar : StoredCell -> Scalar
  | .scalar s => s
  | .bytes bs => .text (bs.flatMap fun b => Text.hex 2 b.toNat)

end StoredCell

namespace StoredTable

/-- The key takes more than one column. -/
def hasCompositeKey (t : StoredTable) : Bool :=
  1 < (t.columns.filter StoredColumn.isKey).length

/-- The column of a schema.  A whole-number column that is the key by itself numbers its rows. -/
def columnOf (t : StoredTable) (c : StoredColumn) : Column :=
  let base := StoredType.baseType c.declared
  let length := StoredType.length? c.declared
  Column.settled
    { name := Name.snake c.name
      baseType := base
      length := length
      nullable := !c.required
      default := Default.normal? c.default base length
      primaryKey := c.isKey
      autoIncrement := StoredType.isInteger c.declared && c.isKey && !t.hasCompositeKey
      enumValues := none
      comment := none }

/-- The row of a schema.  Cells without a name and names without a cell are left out. -/
def rowOf (t : StoredTable) (cells : List StoredCell) : Row :=
  .keyed (Keyed.ofPairs ((t.headings.map Name.snake).zip (cells.map StoredCell.toScalar)))

/-- The table of a schema, without its data. -/
def shape (t : StoredTable) (index : Nat) : Entity :=
  let e := t.columns.foldl (fun e c => (e.addColumn (t.columnOf c)).1)
    (Entity.empty (Name.snake t.name) index)
  { e with primaryKey := PrimaryKey.ofNames (e.keyColumns.map Column.name) }

def toEntity (t : StoredTable) (index : Nat) : Entity :=
  { t.shape index with rows := t.rows.map t.rowOf }

end StoredTable

namespace Database

/-- The message of the trouble that reading comes to.  The declarations and the rows are read only
where there is a table. -/
def trouble? (d : Database) : Option Text :=
  match d.trouble with
  | none => none
  | some (.opening, message) => some message
  | some (.listing, message) => some message
  | some (_, message) => if d.tables.isEmpty then none else some message

def entities (d : Database) : List Entity :=
  d.tables.mapIdx fun index t => t.toEntity index

/-- The data by table.  Of tables with one name, the last one with data counts. -/
def dataOf (entities : List Entity) : Keyed (List Row) :=
  Keyed.ofPairs ((entities.filter fun e => !e.rows.isEmpty).map fun e => (e.name, e.rows))

/-- The failure to read the database at a path. -/
def failure (path message : Text) : Failure :=
  Failure.source
    ("Ошибка чтения базы SQLite ".toList ++ path ++ ": ".toList ++ message)
    (some path) (some "sqlite_import")

def read (options : DepthOptions) (d : Database) (path : Text) (reverse : Option Bool) :
    Except Failure ParseReport :=
  match d.trouble? with
  | some message => .error (failure path message)
  | none =>
    .ok
      { entities :=
          Depth.calculate options.matcher.matcher (reverse.getD options.reverse) d.entities
        data := dataOf d.entities
        results := []
        stats :=
          { times := [("total_time", Stats.instant)]
            counts := [("tables", d.tables.length), ("failed", 0)] } }

end Database
end SchemaAtlas
