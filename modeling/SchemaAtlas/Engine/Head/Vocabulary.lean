import SchemaAtlas.Text.Case

namespace SchemaAtlas
namespace Head

/-!
The vocabulary of statement heads: the words with a meaning of their own in some dialect.

Words are written in upper case.  Type names are listed apart, because they are no keywords even
where they are reserved; a word in neither list is a name.
-/

/-- Words that begin a statement about rows. -/
def manipulationWords : List String :=
  ["SELECT", "INSERT", "DELETE", "UPDATE", "UPSERT", "REPLACE", "MERGE", "COMMIT", "ROLLBACK",
   "START"]

/-- Words that begin a statement about objects. -/
def definitionWords : List String :=
  ["CREATE", "DROP", "ALTER", "TRUNCATE"]

/-- Words that begin a statement about permissions. -/
def permissionWords : List String :=
  ["GRANT", "REVOKE"]

/-- The words that have a meaning inside statements. -/
def clauseWords : List String :=
  ["ABORT", "ABS", "ABSOLUTE", "ACCESS", "ACCOUNT", "ADA", "ADD", "ADMIN", "AFTER", "AGGREGATE",
   "ALIAS", "ALL", "ALLOCATE", "ANALYSE", "ANALYZE", "AND", "ANY", "ARCHIVE", "ARCHIVELOG", "ARE",
   "ARRAYLEN", "ARRAY_CONTAINS", "AS", "ASENSITIVE", "ASSERTION", "ASSERT_ROWS_MODIFIED",
   "ASSIGNMENT", "ASYMMETRIC", "AT", "ATOMIC", "AUDIT", "AUTHORIZATION", "AUTO_INCREMENT", "AVG",
   "BACKUP", "BACKWARD", "BECOME", "BEFORE", "BEGIN", "BETWEEN", "BIGSERIAL", "BITVAR",
   "BIT_LENGTH", "BLOCK", "BODY", "BOTH", "BOX", "BREADTH", "BREAK", "BY", "BYTEA", "CACHE",
   "CALL", "CALLED", "CANCEL", "CARDINALITY", "CASCADE", "CASCADED", "CASE", "CAST", "CATALOG",
   "CATALOG_NAME", "CHAIN", "CHANGE", "CHARACTER", "CHARACTERISTICS", "CHARACTER_LENGTH",
   "CHARACTER_SET_CATALOG", "CHARACTER_SET_NAME", "CHARACTER_SET_SCHEMA", "CHARSET",
   "CHAR_LENGTH", "CHECK", "CHECKED", "CHECKPOINT", "CIDR", "CIRCLE", "CLASS", "CLASS_ORIGIN",
   "CLOB", "CLOSE", "CLUSTER", "CMP", "COALESCE", "COBOL", "COLLATE", "COLLATION",
   "COLLATION_CATALOG", "COLLATION_NAME", "COLLATION_SCHEMA", "COLLECT", "COLLECT_LIST", "COLUMN",
   "COLUMN_NAME", "COMMAND_FUNCTION", "COMMAND_FUNCTION_CODE", "COMMENT", "COMMITTED", "COMPILE",
   "COMPLETION", "COMPRESS", "CONCAT", "CONCURRENTLY", "CONDITION", "CONDITION_NUMBER",
   "CONFLICT", "CONNECT", "CONNECTION", "CONNECTION_NAME", "CONSTRAINT", "CONSTRAINTS",
   "CONSTRAINT_CATALOG", "CONSTRAINT_NAME", "CONSTRAINT_SCHEMA", "CONSTRUCTOR", "CONTAINS",
   "CONTENTS", "CONTINUE", "CONTROLFILE", "CONVERSION", "CONVERT", "COPY", "CORRESPONDING",
   "COUNT", "CREATEDB", "CREATEUSER", "CROSS", "CUBE", "CURRENT", "CURRENT_DATE", "CURRENT_PATH",
   "CURRENT_ROLE", "CURRENT_TIME", "CURRENT_TIMESTAMP", "CURRENT_USER", "CURSOR", "CURSOR_NAME",
   "CYCLE", "DATA", "DATABASE", "DATAFILE", "DATETIME_INTERVAL_CODE",
   "DATETIME_INTERVAL_PRECISION", "DATE_ADD", "DATE_SUB", "DAY", "DBA", "DBMS_OUTPUT",
   "DEALLOCATE", "DECLARE", "DECODE", "DEFAULT", "DEFAULTS", "DEFERRABLE", "DEFERRED", "DEFINE",
   "DEFINED", "DEFINER", "DELIMITER", "DELIMITERS", "DEREF", "DESCRIBE", "DESCRIPTOR", "DESTROY",
   "DESTRUCTOR", "DETERMINISTIC", "DIAGNOSTICS", "DICTIONARY", "DIRECTORY", "DISABLE",
   "DISCONNECT", "DISMOUNT", "DISPATCH", "DISTINCT", "DISTINCTROW", "DISTRIBUTE", "DO", "DOMAIN",
   "DOUBLE", "DUMP", "DYNAMIC", "DYNAMIC_FUNCTION", "DYNAMIC_FUNCTION_CODE", "EACH", "ELEMENTS",
   "ELSE", "ELSIF", "ENABLE", "ENCODING", "ENCRYPTED", "END", "ENGINE", "ENUM", "EQUALS",
   "ESCAPE", "EVENTS", "EVERY", "EXCEPT", "EXCEPTION", "EXCEPTIONS", "EXCHANGE", "EXCLUDING",
   "EXCLUSIVE", "EXEC", "EXECUTE", "EXISTING", "EXISTS", "EXIT", "EXPLAIN", "EXPLODE", "EXTENDED",
   "EXTENSION", "EXTENT", "EXTERNAL", "EXTERNALLY", "EXTRACT", "FALSE", "FETCH", "FILE", "FINAL",
   "FIRST", "FLOOR", "FLUSH", "FOLLOWING", "FOR", "FORCE", "FOREACH", "FOREIGN", "FORTRAN",
   "FORWARD", "FOUND", "FREE", "FREELIST", "FREELISTS", "FREEZE", "FROM", "FROM_UNIXTIME", "FTP",
   "FULL", "FUNCTION", "GENERAL", "GENERATED", "GET", "GLOBAL", "GO", "GOTO", "GRANTED", "GROUP",
   "GROUPING", "GSCLUSTER", "HASH", "HAVING", "HIERARCHY", "HOLD", "HOST", "HOUR", "IDENTIFIED",
   "IDENTITY", "IF", "IGNORE", "ILIKE", "IMMEDIATE", "IMMUTABLE", "IMPLEMENTATION", "IMPLICIT",
   "IN", "INCLUDE", "INCLUDING", "INCREMENT", "INDEX", "INDEXES", "INDICATOR", "INET", "INFIX",
   "INHERIT", "INHERITS", "INITIAL", "INITIALIZE", "INITIALLY", "INITRANS", "INLINE", "INNER",
   "INOUT", "INPUT", "INSENSITIVE", "INSTANCE", "INSTANTIABLE", "INSTEAD", "INSTR", "INTERSECT",
   "INTO", "INVOKER", "IS", "ISNULL", "ISOLATION", "ISSUE", "ITERATE", "JOIN", "JSON", "JSONB",
   "KEY", "KEY_MEMBER", "KEY_TYPE", "LANCOMPILER", "LANGUAGE", "LARGE", "LAST", "LATERAL",
   "LAYER", "LEADING", "LEAVE", "LEFT", "LEN", "LENGTH", "LESS", "LEVEL", "LIKE", "LIMIT", "LINE",
   "LINK", "LISTEN", "LISTS", "LOAD", "LOCAL", "LOCALTIME", "LOCALTIMESTAMP", "LOCATE",
   "LOCATION", "LOCATOR", "LOCK", "LOGFILE", "LOOKUP", "LOOP", "LOWER", "LSEG", "MACADDR",
   "MANAGE", "MANUAL", "MATCH", "MAX", "MAXDATAFILES", "MAXELEMENT", "MAXEXTENTS", "MAXINDEX",
   "MAXINSTANCES", "MAXLOGFILES", "MAXLOGHISTORY", "MAXLOGMEMBERS", "MAXTRANS", "MAXVALUE",
   "MAX_PART_DATE", "MAX_PART_INT", "MAX_PART_STRING", "MESSAGE_LENGTH", "MESSAGE_OCTET_LENGTH",
   "MESSAGE_TEXT", "METHOD", "MIN", "MINELEMENT", "MINEXTENTS", "MININDEX", "MINUS", "MINUTE",
   "MINVALUE", "MIN_PART_DATE", "MIN_PART_INT", "MIN_PART_STRING", "MOD", "MODE", "MODIFIES",
   "MODIFY", "MODULE", "MONEY", "MONTH", "MORE", "MOUNT", "MOVE", "MUMPS", "NAMES", "NATIONAL",
   "NATURAL", "NCHAR", "NCLOB", "NEW", "NEXT", "NO", "NOARCHIVELOG", "NOAUDIT", "NOCACHE",
   "NOCOMPRESS", "NOCREATEDB", "NOCREATEUSER", "NOCYCLE", "NOMAXVALUE", "NOMINVALUE", "NONE",
   "NOORDER", "NORESETLOGS", "NORMAL", "NOSORT", "NOT", "NOTFOUND", "NOTHING", "NOTICE", "NOTIFY",
   "NOTNULL", "NOW", "NOWAIT", "NULL", "NULLABLE", "NULLIF", "NVL", "NVL2", "OBJECT",
   "OCTET_LENGTH", "OF", "OFF", "OFFLINE", "OFFSET", "OIDS", "OLD", "ON", "ONLINE", "ONLY",
   "ON_ERROR_STOP", "OPEN", "OPERATION", "OPERATOR", "OPTIMAL", "OPTION", "OPTIONS", "OR",
   "ORDER", "ORDINALITY", "ORGANIZATION", "OUT", "OUTER", "OUTPUT", "OVER", "OVERLAPS", "OVERLAY",
   "OVERRIDING", "OVERWRITE", "OWN", "OWNER", "PACKAGE", "PAD", "PARALLEL", "PARAMETER",
   "PARAMETERS", "PARAMETER_MODE", "PARAMETER_NAME", "PARAMETER_ORDINAL_POSITION",
   "PARAMETER_SPECIFIC_CATALOG", "PARAMETER_SPECIFIC_NAME", "PARAMETER_SPECIFIC_SCHEMA",
   "PARSE_URL_TUPLE", "PARTIAL", "PARTITION", "PART_COUNT", "PART_COUNT_BY", "PART_LOC", "PASCAL",
   "PATH", "PCTFREE", "PCTINCREASE", "PCTUSED", "PENDANT", "PERFORM", "PG_LSN", "PIVOT",
   "PLACING", "PLAN", "PLI", "PLPGSQL", "POINT", "POLYGON", "POSEXPLODE", "POSITION", "POSTFIX",
   "PRECEDING", "PRECISION", "PREFIX", "PREORDER", "PREPARE", "PRESERVE", "PRIMARY", "PRINT",
   "PRIOR", "PRIVATE", "PRIVILEGES", "PROCEDURAL", "PROCEDURE", "PROFILE", "PROTO", "PUBLIC",
   "PUT_LINE", "QUALIFY", "QUARTER", "QUOTA", "RAISE", "RANGE", "RAW", "READ", "READS", "RECHECK",
   "RECOVER", "RECURSIVE", "REDUCE", "REF", "REFERENCES", "REFERENCING", "REGEXP",
   "REGEXP_REPLACE", "REINDEX", "RELATIVE", "RENAME", "REPEATABLE", "RESET", "RESETLOGS",
   "RESIGNAL", "RESOURCE", "RESPECT", "RESTART", "RESTRICT", "RESTRICTED", "RESULT", "RETURN",
   "RETURNED_LENGTH", "RETURNED_OCTET_LENGTH", "RETURNED_SQLSTATE", "RETURNING", "RETURNS",
   "REUSE", "RIGHT", "RLIKE", "ROLE", "ROLES", "ROLLUP", "ROUTINE", "ROUTINE_CATALOG",
   "ROUTINE_NAME", "ROUTINE_SCHEMA", "ROW", "ROWS", "ROW_COUNT", "RTRIM", "RULE", "SAMPLE",
   "SAVEPOINT", "SAVE_POINT", "SCALE", "SCHEMA", "SCHEMA_NAME", "SCN", "SCOPE", "SCROLL",
   "SEARCH", "SECOND", "SECTION", "SECURITY", "SEGMENT", "SELF", "SENSITIVE", "SEQUENCE",
   "SERIALIZABLE", "SERVER_NAME", "SESSION", "SESSION_USER", "SET", "SETOF", "SETS", "SHARE",
   "SHARED", "SHOW", "SIGN", "SIGNAL", "SIMILAR", "SIMPLE", "SIN", "SIZE", "SMALLSERIAL",
   "SNAPSHOT", "SOME", "SORT", "SOURCE", "SPACE", "SPECIFIC", "SPECIFICTYPE", "SPECIFIC_NAME",
   "SPLIT", "SQL", "SQLBUF", "SQLCODE", "SQLERROR", "SQLEXCEPTION", "SQLSTATE", "SQLWARNING",
   "SQRT", "STABLE", "STACK", "STATEMENT", "STATEMENT_ID", "STATIC", "STATISTICS", "STDIN",
   "STDOUT", "STOP", "STORAGE", "STR", "STRAIGHT_JOIN", "STRICT", "STRUCTURE", "STYPE",
   "SUBCLASS_ORIGIN", "SUBLIST", "SUBSTR", "SUBSTRING", "SUCCESSFUL", "SUM", "SUMMARY", "SWITCH",
   "SYMMETRIC", "SYNONYM", "SYSID", "SYSTEM", "SYSTEM_USER", "TABLE", "TABLES", "TABLESAMPLE",
   "TABLESPACE", "TABLE_NAME", "TBLPROPERTIES", "TEMP", "TEMPLATE", "TEMPORARY", "TERMINATE",
   "THAN", "THEN", "THREAD", "TIME", "TIMESTAMP_ISO", "TIMEZONE_HOUR", "TIMEZONE_MINUTE", "TO",
   "TOAST", "TO_CHAR", "TO_DATE", "TO_TIMESTAMP", "TRACING", "TRAILING", "TRANSACTION",
   "TRANSACTIONS_COMMITTED", "TRANSACTIONS_ROLLED_BACK", "TRANSATION_ACTIVE", "TRANSFORM",
   "TRANSFORMS", "TRANSLATE", "TREAT", "TRIGGER", "TRIGGERS", "TRIGGER_CATALOG", "TRIGGER_NAME",
   "TRIGGER_SCHEMA", "TRIM", "TRUE", "TRUNC", "TRUSTED", "TRY_CAST", "TSQUERY", "TSVECTOR",
   "TXID_SNAPSHOT", "TYPE", "UID", "UNBOUNDED", "UNCOMMITTED", "UNDER", "UNENCRYPTED", "UNION",
   "UNIQUE", "UNIQUEJOIN", "UNIX_TIMESTAMP", "UNKNOWN", "UNLIMITED", "UNLISTEN", "UNLOCK",
   "UNNAMED", "UNNEST", "UNPIVOT", "UNTIL", "UPPER", "USAGE", "USE", "USER",
   "USER_DEFINED_TYPE_CATALOG", "USER_DEFINED_TYPE_NAME", "USER_DEFINED_TYPE_SCHEMA", "USING",
   "UTC_TIMESTAMP", "UUID", "VACUUM", "VALID", "VALIDATE", "VALIDATOR", "VALUES", "VARIABLE",
   "VERBOSE", "VERSION", "VIEW", "VIEWS", "VOLATILE", "WEEK", "WHEN", "WHENEVER", "WHERE",
   "WHILE", "WINDOW", "WITHOUT", "WORK", "WRITE", "XML", "YEAR", "ZONE"]

def typeWords : List String :=
  ["ARRAY", "BIGINT", "BIGNUMERIC", "BINARY", "BIT", "BLOB", "BOOLEAN", "CHAR", "DATE", "DEC",
   "DECIMAL", "FILE_TYPE", "FLOAT", "INT", "INT8", "INTEGER", "INTERVAL", "LONG", "MAP",
   "NATURALN", "NUMBER", "NUMERIC", "NVARCHAR", "PLS_INTEGER", "POSITIVE", "POSITIVEN", "REAL",
   "ROWID", "ROWLABEL", "ROWNUM", "SERIAL", "SERIAL8", "SIGNED", "SIGNTYPE", "SIMPLE_DOUBLE",
   "SIMPLE_FLOAT", "SIMPLE_INTEGER", "SMALLINT", "STRING", "STRUCT", "SYS_REFCURSOR", "TEXT",
   "TIMESTAMP", "TINYINT", "UNSIGNED", "UROWID", "UTL_FILE", "VARCHAR", "VARCHAR2", "VARIANT",
   "VARYING"]

def isKeyword (word : String) : Bool :=
  manipulationWords.contains word || definitionWords.contains word
    || word == "WITH" || permissionWords.contains word || clauseWords.contains word

end Head
end SchemaAtlas
