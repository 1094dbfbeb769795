import SchemaAtlas.Dialect.Basic

namespace SchemaAtlas
namespace Dialect

/-!
The types of each dialect by the beginnings of type names.  A table is read from the top and the
first beginning that fits decides, so a longer beginning stands above every shorter one that it
extends.
-/

/-- A table of strings as a table of texts. -/
def asTexts (table : List (String × String)) : List (Text × Text) :=
  table.map fun entry => (entry.1.toList, entry.2.toList)

def mysqlTypes : List (Text × Text) :=
  asTexts
    [("bigint", "BIGINT"), ("bigserial", "BIGINT"), ("serial", "BIGINT"),
     ("mediumint", "MEDIUMINT"), ("smallint", "SMALLINT"), ("integer", "INT"),
     ("double", "DOUBLE"), ("float", "FLOAT"), ("real", "DOUBLE"), ("decimal", "DECIMAL"),
     ("numeric", "NUMERIC"), ("money", "DECIMAL"), ("tinytext", "TINYTEXT"),
     ("mediumtext", "MEDIUMTEXT"), ("longtext", "LONGTEXT"), ("text", "TEXT"),
     ("nvarchar", "VARCHAR"), ("varchar", "VARCHAR"), ("character varying", "VARCHAR"),
     ("tinyint", "TINYINT"), ("boolean", "TINYINT(1)"), ("bit", "TINYINT(1)"),
     ("int2", "SMALLINT"), ("int8", "BIGINT"), ("int", "INT"), ("datetime2", "TIMESTAMP"),
     ("datetime", "DATETIME"), ("date", "DATE"), ("timestamptz", "TIMESTAMP"),
     ("timestamp", "TIMESTAMP"), ("jsonb", "JSON"), ("json", "JSON"), ("uuid", "CHAR(36)"),
     ("enum", "ENUM"), ("set", "SET"), ("char", "CHAR")]

def postgresqlTypes : List (Text × Text) :=
  asTexts
    [("bigint", "BIGINT"), ("bigserial", "BIGSERIAL"), ("serial", "SERIAL"),
     ("mediumint", "INTEGER"), ("smallint", "SMALLINT"), ("tinyint", "INTEGER"),
     ("integer", "INTEGER"), ("int2", "SMALLINT"), ("int8", "BIGINT"), ("int", "INTEGER"),
     ("real", "REAL"), ("float", "REAL"), ("double", "DOUBLE PRECISION"), ("decimal", "NUMERIC"),
     ("numeric", "NUMERIC"), ("money", "MONEY"), ("longtext", "TEXT"), ("mediumtext", "TEXT"),
     ("smalltext", "TEXT"), ("tinytext", "TEXT"), ("text", "TEXT"),
     ("character varying", "CHARACTER VARYING"), ("nvarchar", "CHARACTER VARYING"),
     ("varchar", "CHARACTER VARYING"), ("char", "CHARACTER"), ("boolean", "BOOLEAN"),
     ("bit", "BOOLEAN"), ("datetime2", "TIMESTAMP WITH TIME ZONE"),
     ("datetime", "TIMESTAMP WITHOUT TIME ZONE"), ("date", "DATE"),
     ("timestamptz", "TIMESTAMP WITH TIME ZONE"), ("timestamp", "TIMESTAMP WITH TIME ZONE"),
     ("time", "TIME"), ("jsonb", "JSONB"), ("json", "JSONB"), ("uuid", "UUID"), ("blob", "BYTEA")]

def sqliteTypes : List (Text × Text) :=
  asTexts
    [("integer", "INTEGER"), ("int", "INTEGER"), ("bit", "BOOLEAN"), ("tinyint", "INTEGER"),
     ("smallint", "INTEGER"), ("mediumint", "INTEGER"), ("bigint", "INTEGER"),
     ("bigserial", "INTEGER"), ("serial", "INTEGER"), ("real", "REAL"), ("float", "REAL"),
     ("double", "REAL"), ("decimal", "REAL"), ("numeric", "REAL"), ("money", "REAL"),
     ("nvarchar", "NVARCHAR"), ("varchar", "NVARCHAR"), ("character varying", "NVARCHAR"),
     ("char", "NVARCHAR"), ("tinytext", "TEXT"), ("mediumtext", "TEXT"), ("longtext", "TEXT"),
     ("text", "TEXT"), ("datetime2", "TIMESTAMP"), ("datetime", "DATETIME"),
     ("timestamptz", "TIMESTAMP"), ("timestamp", "TIMESTAMP"), ("date", "DATE"), ("time", "TIME"),
     ("year", "INTEGER"), ("boolean", "INTEGER"), ("jsonb", "TEXT"), ("json", "TEXT"),
     ("uuid", "TEXT"), ("blob", "BLOB")]

def sqlserverTypes : List (Text × Text) :=
  asTexts
    [("bigint", "BIGINT"), ("bigserial", "BIGINT"), ("serial", "INT"), ("smallint", "SMALLINT"),
     ("mediumint", "INT"), ("integer", "INT"), ("tinyint", "TINYINT"), ("int2", "SMALLINT"),
     ("int8", "BIGINT"), ("int", "INT"), ("double", "FLOAT"), ("float", "FLOAT"), ("real", "REAL"),
     ("decimal", "DECIMAL"), ("numeric", "NUMERIC"), ("money", "MONEY"),
     ("tinytext", "NVARCHAR(MAX)"), ("mediumtext", "NVARCHAR(MAX)"), ("longtext", "NVARCHAR(MAX)"),
     ("text", "NVARCHAR(MAX)"), ("nvarchar", "NVARCHAR"), ("varchar", "NVARCHAR"),
     ("character varying", "NVARCHAR"), ("char", "NCHAR"), ("boolean", "BIT"), ("bit", "BIT"),
     ("datetime2", "DATETIME2"), ("datetime", "DATETIME"), ("date", "DATE"),
     ("timestamptz", "DATETIMEOFFSET"), ("timestamp", "DATETIME2"), ("time", "TIME"),
     ("jsonb", "NVARCHAR(MAX)"), ("json", "NVARCHAR(MAX)"), ("uuid", "UNIQUEIDENTIFIER"),
     ("blob", "VARBINARY(MAX)")]

def types : Dialect -> List (Text × Text)
  | .mysql => mysqlTypes
  | .postgresql => postgresqlTypes
  | .sqlite => sqliteTypes
  | .sqlserver => sqlserverTypes

/-- The type that a dialect has for truth values. -/
def booleanType : Dialect -> Text
  | .mysql => "TINYINT(1)"
  | .postgresql => "BOOLEAN"
  | .sqlite => "BOOLEAN"
  | .sqlserver => "BIT"

def lengthTypes : Dialect -> List Text
  | .mysql => ["VARCHAR", "CHAR", "TINYINT", "SMALLINT", "MEDIUMINT", "INT", "BIGINT"]
  | .postgresql => ["CHARACTER VARYING", "CHARACTER"]
  | .sqlite => ["NVARCHAR"]
  | .sqlserver => ["NVARCHAR", "NCHAR"]

/-- The type that a dialect has in place of a list of values; MySQL has such lists itself. -/
def listType? : Dialect -> Option Text
  | .mysql => none
  | .postgresql => some "CHARACTER VARYING"
  | .sqlite => some "NVARCHAR"
  | .sqlserver => some "NVARCHAR"

def writesDigits : Dialect -> Bool
  | .mysql => false
  | .postgresql => false
  | .sqlite => true
  | .sqlserver => true

end Dialect
end SchemaAtlas
