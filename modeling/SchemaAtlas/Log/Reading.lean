import SchemaAtlas.Log.Line
import SchemaAtlas.Script.Read
import SchemaAtlas.Script.Definitions
import SchemaAtlas.Source.Database

namespace SchemaAtlas
namespace Log

/-!
What the log says about reading scripts and databases and about writing definitions.
-/

/-- The lines about splitting a script: directives that cut a statement short, a statement that is
open at the end, and the number of statements. -/
def ofSplitting (delimiter script : Text) : List Line :=
  let line (message : Text) : Line := ⟨.splitting, .debug, message⟩
  let last := Statement.readLines delimiter script
  last.interruptions.map (fun number =>
    line ("DELIMITER внутри незакрытого оператора (строка ".toList ++ Text.ofNat number ++ [')']))
  ++ (if last.gathered.isEmpty then [] else
    [line ("Незавершённый оператор в конце скрипта (строка ".toList ++ Text.ofNat last.firstLine
      ++ [')'])])
  ++ [line ("Скрипт разбит на ".toList ++ Text.ofNat last.finish.length ++ " операторов".toList)]

/-- The lines about a table definition.  What was left out of it is told only where the definition
has something in it. -/
def ofDefinition (d : Table.Definition) : List Line :=
  let line (message : Text) : Line := ⟨.table, .debug, message⟩
  let name := d.name.table
  let unclosed := if d.closed then [] else
    [line ("Таблица ".toList ++ name
      ++ ": нет закрывающей скобки, тело до конца оператора".toList)]
  let repeated := d.draft.repeated.map fun column =>
    line ("Повторное объявление колонки ".toList ++ column ++ " проигнорировано".toList)
  let dropped := if d.draft.dropped.isEmpty then [] else
    [line ("Таблица ".toList ++ name ++ ": пропущены элементы ".toList
      ++ (Value.ofTexts d.draft.dropped).display)]
  let unknown := d.draft.unknownKeys.map fun key =>
    line ("PRIMARY KEY ссылается на неизвестную колонку ".toList ++ name ++ ['.'] ++ key)
  match d.checked with
  | .error _ => unclosed ++ repeated
  | .ok _ => unclosed ++ repeated ++ dropped ++ unknown

/-- The line about a statement that failed. -/
def ofFailed (s : Statement) (f : Failure) : Line where
  origin := .script
  level := .warning
  message := "Оператор #".toList ++ Text.ofNat s.index ++ " (строка ".toList ++ Text.ofNat s.line
    ++ "): ".toList ++ f.summary

/-- The lines about a statement that defines a table. -/
def ofTable (s : Statement) (status : ResultStatus) : List Line :=
  let parts := match Table.definition (Table.unifyTypes s.text) with
    | .error _ => []
    | .ok d => ofDefinition d
  let outcome := match Table.ofText s.text 0, status with
    | .error f, _ => [ofFailed s f]
    | .ok e, .skipped =>
      [⟨.script, .debug, "Таблица ".toList ++ e.name
        ++ " уже объявлена, повторное CREATE TABLE пропущено".toList⟩]
    | .ok _, _ => []
  parts ++ outcome

/-- The lines about a statement that inserts data. -/
def ofInsert (s : Statement) (status : ResultStatus) : List Line :=
  if status == .failed then [ofFailed s (Script.insertFailure s.text)]
  else
    match (Insert.spelling? s.text).bind fun spelled => Insert.openGroupSize? spelled.values with
    | some size =>
      [⟨.rows, .debug, "VALUES: незакрытая группа отброшена (".toList ++ Text.ofNat size
        ++ " символов)".toList⟩]
    | none => []

/-- The line about a statement that is passed over. -/
def ofSkipped (s : Statement) (kind : StatementKind) : Line where
  origin := .script
  level := .debug
  message := "Оператор #".toList ++ Text.ofNat s.index ++ " (".toList ++ kind.label
    ++ ") пропущен: ".toList ++ s.head 60

/-- The lines about a statement with its result. -/
def ofStatement (s : Statement) (r : StatementResult) : List Line :=
  match r.kind with
  | .createTable => ofTable s r.status
  | .insert => ofInsert s r.status
  | .dropTable => [ofSkipped s r.kind]
  | .other => [ofSkipped s r.kind]

/-- The lines about the depths of tables: the references left out of cycles, and the depths. -/
def ofDepths (m : Matcher) (entities : List Entity) : List Line :=
  let cycles := (Depth.walk (m.adjacency entities)).cycles
  let depths := Keyed.ofPairs (entities.map fun e => (e.name, Value.int e.depth))
  if entities.isEmpty then []
  else
    (if cycles == 0 then [] else
      [⟨.depth, .info, "Глубина: разорвано циклических ссылок: ".toList ++ Text.ofNat cycles⟩])
    ++ [⟨.depth, .debug, "Глубины: ".toList ++ (Value.mapping depths).display⟩]

/-- The lines about reading a script, with the report on it. -/
def ofScript (options : ScriptOptions) (script : Text) (r : ParseReport) : List Line :=
  let statements := Statement.split options.delimiter script
  ofSplitting options.delimiter script
  ++ (statements.zipWith ofStatement r.results).flatten
  ++ ofDepths options.depth.matcher.matcher r.entities
  ++ [⟨.script, .info, "Разобрано операторов: ".toList ++ Text.ofNat statements.length
    ++ ", таблиц: ".toList ++ Text.ofNat r.entities.length ++ ", ошибок: ".toList
    ++ Text.ofNat r.failed.length⟩]

/-- The line about a stored table and the table that it became. -/
def ofStoredTable (t : StoredTable) (e : Entity) : Line where
  origin := .source
  level := .debug
  message := "SQLite: ".toList ++ t.name ++ " → ".toList ++ e.name ++ " (".toList
    ++ Text.ofNat e.columns.length ++ " колонок, ".toList ++ Text.ofNat e.rows.length
    ++ " строк)".toList

/-- The lines about reading a database, with the report on it. -/
def ofDatabase (options : DepthOptions) (d : Database) (r : ParseReport) : List Line :=
  d.tables.zipWith ofStoredTable r.entities
  ++ ofDepths options.matcher.matcher r.entities
  ++ [⟨.source, .info, "Импорт SQLite: таблиц ".toList ++ Text.ofNat r.entities.length⟩]

/-- The line about writing definitions in a dialect. -/
def ofDefinitions (d : Dialect) (r : ParseReport) : Line where
  origin := .definitions
  level := .info
  message := "Диалект ".toList ++ d.label ++ ": таблиц ".toList ++ Text.ofNat r.entities.length
    ++ ", пропущено с ошибкой ".toList ++ Text.ofNat r.failed.length

/-- The line about a failure that leaves nothing to report. -/
def ofFailure (f : Failure) : Line where
  origin := .commandLine
  level := .error
  message := "Критическая ошибка: ".toList ++ f.summary

end Log
end SchemaAtlas
