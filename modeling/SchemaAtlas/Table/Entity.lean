import SchemaAtlas.Scalar
import SchemaAtlas.Table.Column

namespace SchemaAtlas

/-!
Tables of a schema: columns, keys, references to other tables, and data.
-/

/-- Columns that refer to a table. -/
structure ForeignKey where
  columns : List Text
  refTable : Text
  refColumns : List Text
deriving DecidableEq

/-- The primary key of a table: none, one column, or several in the order of the columns. -/
inductive PrimaryKey where
  | none
  | single (name : Text)
  | composite (names : List Text)
deriving DecidableEq

/-- A table of a schema.  The depth is its place in the order of references; the
rows are its data. -/
structure Entity where
  name : Text
  index : Int
  columns : List Column
  primaryKey : PrimaryKey
  depth : Int
  rows : List Row
  schema : Option Text
  foreignKeys : List ForeignKey
deriving DecidableEq

namespace ForeignKey

def toValue (k : ForeignKey) : Value :=
  .mapping
    [("columns", Value.ofTexts k.columns),
     ("ref_table", .text k.refTable),
     ("ref_columns", Value.ofTexts k.refColumns)]

end ForeignKey

namespace PrimaryKey

/-- The key that the names of its columns make. -/
def ofNames : List Text -> PrimaryKey
  | [] => .none
  | [name] => .single name
  | names => .composite names

def toValue : PrimaryKey -> Value
  | .none => .null
  | .single name => .text name
  | .composite names => Value.ofTexts names

end PrimaryKey

namespace Entity

def empty (name : Text) (index : Int) : Entity :=
  ⟨name, index, [], .none, 0, [], none, []⟩

/-- The name by which tables are told apart. -/
def key (e : Entity) : Text :=
  Text.lower e.name

/-- The first column of a name, whatever its case. -/
def column? (e : Entity) (name : Text) : Option Column :=
  e.columns.find? fun c => c.key == Text.lower name

/-- The table with one more column.  A name that is there already keeps its
column, and nothing changes. -/
def addColumn (e : Entity) (c : Column) : Entity × Bool :=
  match e.column? c.name with
  | some _ => (e, false)
  | none => ({ e with columns := e.columns ++ [c] }, true)

/-- The columns with the first one of a name changed. -/
def mapFirst (f : Column -> Column) (key : Text) : List Column -> List Column
  | [] => []
  | c :: rest => if c.key == key then f c :: rest else c :: mapFirst f key rest

/-- The table with the first column of a name as a key column. -/
def markKey (e : Entity) (name : Text) : Entity :=
  { e with columns := mapFirst Column.asKey (Text.lower name) e.columns }

def columnNames (e : Entity) : List Text :=
  e.columns.map Column.name

def keyColumns (e : Entity) : List Column :=
  e.columns.filter Column.primaryKey

def hasCompositeKey (e : Entity) : Bool :=
  1 < e.keyColumns.length

/-- The first table of a name, whatever its case. -/
def find? (entities : List Entity) (name : Text) : Option Entity :=
  entities.find? fun e => e.key == Text.lower name

def toValue (e : Entity) : Value :=
  .mapping
    [("name", .text e.name),
     ("schema", Value.ofOption Value.text e.schema),
     ("index", .int e.index),
     ("depth", .int e.depth),
     ("primary_key", e.primaryKey.toValue),
     ("columns", .list (e.columns.map Column.toValue)),
     ("foreign_keys", .list (e.foreignKeys.map ForeignKey.toValue)),
     ("rows", Value.ofNat e.rows.length)]

end Entity
end SchemaAtlas
