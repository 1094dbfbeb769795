import SchemaAtlas.Default.Render
import SchemaAtlas.Dialect.ColumnType
import SchemaAtlas.Table.Entity

namespace SchemaAtlas
namespace Dialect

/-!
Table definitions in a dialect.
-/

def quoteTable (d : Dialect) (name : Text) : Text :=
  match d with
  | .mysql => '\x60' :: name ++ ['\x60']
  | .postgresql => '"' :: name ++ ['"']
  | .sqlite => name
  | .sqlserver => name

def quoteColumn (d : Dialect) (name : Text) : Text :=
  match d with
  | .mysql => '\x60' :: name ++ ['\x60']
  | _ => name

def escapeComment (comment : Text) : Text :=
  Text.double '\'' comment

/-- The whole-number types of eight bytes. -/
def isWide (base : Text) : Bool :=
  ["BIGINT".toList, "INT8".toList, "BIGSERIAL".toList, "SERIAL8".toList].contains base

/-- The type of a column in a dialect.  A counting key column of SQLite is
written without a length. -/
def typeOf (d : Dialect) (c : Column) : Text :=
  let base := Text.upper c.baseType
  let bare := d == .sqlite && c.autoIncrement && c.primaryKey && Text.has "INT".toList base
  d.columnType c.baseType (if bare then none else c.length)
    (if TypeText.isValueList base then c.enumValues else none)

/-- The mark of a counting column; PostgreSQL has a type for it instead. -/
def countMark : Dialect -> Text
  | .mysql => "AUTO_INCREMENT"
  | .postgresql => []
  | .sqlite => "AUTOINCREMENT"
  | .sqlserver => "IDENTITY(1,1)"

/-- The default value of a column in a dialect, where one is written.  Key columns have none, nor
do counting columns that draw from a sequence, nor columns that may not be empty an empty one. -/
def defaultOf (d : Dialect) (c : Column) : Except NumeralError (Option Text) :=
  match c.default with
  | none => .ok none
  | some value =>
    if c.primaryKey || (c.autoIncrement && Text.has "NEXTVAL".toList (Text.upper value)) then
      .ok none
    else
      (Default.render d value c.baseType c.length).map fun rendered =>
        rendered.filter fun t => !t.isEmpty && !(t == "NULL".toList && !c.nullable)

/-- Whether a column may be empty, and whether it is the key by itself. -/
def presence (c : Column) (separateKey : Bool) : Text :=
  if !c.primaryKey then (if c.nullable then "NULL" else "NOT NULL")
  else if separateKey then "NOT NULL"
  else "NOT NULL PRIMARY KEY"

/-- A column in a dialect, given whether the key is declared apart from the columns. -/
def column (d : Dialect) (c : Column) (separateKey : Bool) : Except NumeralError Text :=
  let name := d.quoteColumn c.name
  if c.autoIncrement && d == .postgresql then
    let serial : Text := if isWide (Text.upper c.baseType) then "BIGSERIAL" else "SERIAL"
    let ending : Text :=
      if c.primaryKey && !separateKey then "NOT NULL PRIMARY KEY" else "NOT NULL"
    .ok (Text.join [' '] [name, serial, ending])
  else
    (d.defaultOf c).map fun default =>
      let counting := if c.autoIncrement then [d.countMark] else []
      let preset := default.toList.map fun t => "DEFAULT ".toList ++ t
      let remark := match d, c.comment with
        | .mysql, some (x :: xs) =>
          ["COMMENT ".toList ++ Text.inApostrophes (escapeComment (x :: xs))]
        | _, _ => []
      Text.join [' '] ([name, d.typeOf c, presence c separateKey] ++ counting ++ preset ++ remark)

def table (d : Dialect) (e : Entity) : Except NumeralError Text := do
  let separateKey := e.hasCompositeKey
  let columns <- e.columns.mapM fun c => d.column c separateKey
  let keyLine :=
    if separateKey then
      ["PRIMARY KEY(".toList
        ++ Text.join ", ".toList (e.keyColumns.map fun c => d.quoteColumn c.name) ++ [')']]
    else []
  return "CREATE TABLE IF NOT EXISTS ".toList ++ d.quoteTable e.name ++ " (\n".toList
    ++ Text.join ",\n".toList ((columns ++ keyLine).map ('\t' :: ·)) ++ "\n);".toList

end Dialect
end SchemaAtlas
