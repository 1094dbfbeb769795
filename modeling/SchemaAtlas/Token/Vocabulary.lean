import SchemaAtlas.Token.Basic

namespace SchemaAtlas
namespace Token

/-!
The bare words of table definitions: column types, keywords, and everything else.
-/

/-- The column types that a table definition may name. -/
def typeNames : List Text :=
  ["TIMESTAMPTZ".toList, "TIMESTAMP".toList, "SERIAL4".toList, "SERIAL8".toList,
   "BIGSERIAL".toList, "SERIAL".toList, "INT2".toList, "INT4".toList, "INT8".toList,
   "TINYINT".toList, "SMALLINT".toList, "MEDIUMINT".toList, "BIGINT".toList, "LONGTEXT".toList,
   "MEDIUMTEXT".toList, "TINYTEXT".toList, "TEXT".toList, "NVARCHAR".toList, "VARCHAR".toList,
   "ENUM".toList, "SET".toList, "NUMERIC".toList, "DECIMAL".toList, "CHAR".toList, "REAL".toList,
   "FLOAT".toList, "INTEGER".toList, "INT".toList, "DATETIME2".toList, "DATETIME".toList,
   "DATE".toList, "DOUBLE".toList, "BOOLEAN".toList, "BOOL".toList, "TIME".toList, "UUID".toList,
   "MONEY".toList, "BLOB".toList, "BIT".toList, "JSONB".toList, "JSON".toList]

def keywords : List Text :=
  ["CREATE".toList, "TABLE".toList, "TEMPORARY".toList, "IF".toList, "NOT".toList,
   "EXISTS".toList, "DROP".toList, "CONSTRAINT".toList, "PRIMARY".toList, "KEY".toList,
   "FOREIGN".toList, "REFERENCES".toList, "UNIQUE".toList, "INDEX".toList, "CHECK".toList,
   "DEFAULT".toList, "NULL".toList, "COMMENT".toList, "AUTO_INCREMENT".toList,
   "AUTOINCREMENT".toList, "IDENTITY".toList, "COLLATE".toList, "GENERATED".toList,
   "ALWAYS".toList, "AS".toList, "ON".toList, "DELETE".toList, "UPDATE".toList, "CASCADE".toList,
   "RESTRICT".toList, "INSERT".toList, "IGNORE".toList, "INTO".toList, "VALUES".toList,
   "UNSIGNED".toList, "ZEROFILL".toList, "CHARACTER".toList]

/-- The word names a column type, in any mixture of cases. -/
def isTypeName (word : Text) : Bool :=
  typeNames.contains (Text.upper word)

/-- The kind of a bare word.  A column type comes before a keyword. -/
def wordKind (word : Text) : TokenKind :=
  if isTypeName word then .typeName
  else if keywords.contains (Text.upper word) then .keyword
  else .identifier

end Token
end SchemaAtlas
