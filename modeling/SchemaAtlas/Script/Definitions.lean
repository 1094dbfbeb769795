import SchemaAtlas.Ddl
import SchemaAtlas.Script.Report

namespace SchemaAtlas

/-!
A whole report as table definitions in a dialect.
-/

/-- How definitions are written: in which dialect unless another one is asked for, and whether
dropped tables are mentioned in comments. -/
structure DdlOptions where
  dialect : Value
  mentionDrops : Bool

namespace DdlOptions

def ofSettings (given : Keyed Value) : DdlOptions where
  dialect := (Keyed.get? "dialect" given).getD (.text "mysql")
  mentionDrops := ((Keyed.get? "drop_table_comments" given).getD (.bool true)).isTruthy

/-- The dialect that is asked for, or else that of the options. -/
def choose (o : DdlOptions) (asked : Value) : Except Failure Dialect :=
  Dialect.ofValue (if asked.isTruthy then asked else o.dialect)

end DdlOptions

namespace ParseReport

def dropComments (r : ParseReport) (d : Dialect) : List Text :=
  r.results.filterMap fun result =>
    match result.kind, result.table with
    | .dropTable, some (c :: cs) =>
      some ("-- DROP TABLE IF EXISTS ".toList ++ d.quoteTable (c :: cs) ++ [';'])
    | _, _ => none

/-- All tables of the report in a dialect, with an empty line between them. -/
def definitions (r : ParseReport) (d : Dialect) (mentionDrops : Bool) :
    Except NumeralError Text := do
  let tables <- r.entities.mapM d.table
  let drops := if mentionDrops then r.dropComments d else []
  let heading := if drops.isEmpty then [] else drops ++ [[]]
  return Text.join ['\n'] (heading ++ [Text.join "\n\n".toList tables])

end ParseReport
end SchemaAtlas
