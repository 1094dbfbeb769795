import SchemaAtlas.Failure
import SchemaAtlas.Text.Blank
import SchemaAtlas.Text.Case

namespace SchemaAtlas

/-!
The dialects in which table definitions can be written.
-/

/-- A dialect of table definitions. -/
inductive Dialect where
  | mysql
  | postgresql
  | sqlite
  | sqlserver
deriving DecidableEq

namespace Dialect

def all : List Dialect :=
  [.mysql, .postgresql, .sqlite, .sqlserver]

def label : Dialect -> Text
  | .mysql => "mysql"
  | .postgresql => "postgresql"
  | .sqlite => "sqlite"
  | .sqlserver => "sqlserver"

/-- Every name under which a dialect is known. -/
def aliases : List (Text × Dialect) :=
  [("mysql", .mysql), ("mariadb", .mysql), ("postgresql", .postgresql), ("postgres", .postgresql),
   ("pgsql", .postgresql), ("sqlite", .sqlite), ("sqlite3", .sqlite), ("sqlserver", .sqlserver),
   ("sql server", .sqlserver), ("mssql", .sqlserver)]

/-- The dialect of a name, whatever its case and outer white space. -/
def ofName? (name : Text) : Option Dialect :=
  Keyed.get? (Text.lower (Text.trim name)) aliases

/-- The dialect that a value names.  A value that is no text names none. -/
def ofValue (name : Value) : Except Failure Dialect :=
  match ofName? (name.text?.getD []) with
  | some dialect => .ok dialect
  | none => .error (Failure.unsupportedDialect name (all.map label))

end Dialect
end SchemaAtlas
