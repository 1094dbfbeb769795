import SchemaAtlas.Document.Part

namespace SchemaAtlas
namespace Document

/-!
Documents as plain text.
-/

/-- The line between two parts. -/
def rule : Text :=
  List.replicate 70 '='

/-- The line between two parts, after an empty line. -/
def ruleBelow : Text :=
  '\n' :: rule

def seconds : Value -> Text
  | .real x => x.formatFixed 4
  | .int n => Text.ofInt n ++ ".0000".toList
  | .bool b => if b then "1.0000" else "0.0000"
  | _ => "0.0000"

def columnLine (column : Value) : Text :=
  let marks : List Text :=
    (if flag column "primary_key" then ["PK".toList] else [])
      ++ (if flag column "auto_increment" then ["AUTO".toList] else [])
      ++ (if flag column "nullable" then [] else ["NOT NULL".toList])
      ++ ((defaultText? column).toList.map fun t => "DEFAULT ".toList ++ t)
  Text.join [' '] ([entryText column "name" [], typeText column] ++ marks)

def tableLines (table : Value) : List Text :=
  ("\n  [".toList ++ entryText table "depth" [] ++ "] ".toList ++ entryText table "name" []
      ++ " (строк: ".toList ++ entryText table "rows" [] ++ [')'])
    :: (table.getD "columns" .null).items.map fun c => "     - ".toList ++ columnLine c

/-- A message of at most a hundred characters. -/
def shortMessage (message : Text) : Text :=
  if 100 < message.length then message.take 97 ++ "...".toList else message

def errorLine (number : Nat) (error : Value) : Text :=
  let line := (error.getD "details" .null).getD "line" .null
  "  ".toList ++ Text.ofNat number ++ ". [".toList ++ entryText error "code" [] ++ "] ".toList
    ++ shortMessage (entryText error "error" "N/A")
    ++ (if line.isTruthy then " (строка ".toList ++ line.display ++ [')'] else [])

def errorLines (errors : List Value) : List Text :=
  if errors.isEmpty then []
  else
    [ruleBelow, "ОШИБКИ (".toList ++ Text.ofNat errors.length ++ "):".toList]
      ++ errors.zipIdx.map fun entry => errorLine (entry.2 + 1) entry.1

/-- The lines about definitions, if there are any. -/
def ddlLines (ddl : Value) : List Text :=
  if ddl.isTruthy then
    [ruleBelow, "DDL (".toList ++ (ddl.getD "dialect" .null).display ++ "):".toList,
     entryText ddl "sql" []]
  else []

def timeLines (times : Value) : List Text :=
  let line (title : Text) (key : Text) : Text :=
    "  ".toList ++ title ++ ": ".toList ++ seconds (times.getD key (.int 0)) ++ "с".toList
  if times.isTruthy then
    [ruleBelow, "ПРОИЗВОДИТЕЛЬНОСТЬ:", line "Общее время" "total_time",
     line "Разбиение" "split_time", line "Разбор" "parse_time", line "Глубина" "depth_time"]
  else []

def plain (document : Value) : Text :=
  let metadata := document.getD "metadata" .null
  let summary := document.getD "summary" .null
  let tables := (document.getD "entities" .null).items
  let count (key : Text) : Text := entryText summary key "0"
  let head : List Text :=
    [rule, "ОТЧЁТ ОБ ИЗВЛЕЧЁННОЙ СХЕМЕ", rule, [], "МЕТАДАННЫЕ:",
     "  Время анализа: ".toList ++ entryText metadata "timestamp" "N/A",
     "  Версия инструмента: ".toList ++ entryText metadata "version" "N/A",
     "  Источник: ".toList ++ availableText metadata "source", [], "СВОДКА:",
     "  Таблиц: ".toList ++ count "tables",
     "  Колонок: ".toList ++ count "columns",
     "  Строк данных: ".toList ++ count "rows",
     "  Операторов: ".toList ++ count "statements" ++ " (ok: ".toList ++ count "statements_ok"
       ++ ", пропущено: ".toList ++ count "statements_skipped"
       ++ ", ошибок: ".toList ++ count "statements_failed" ++ [')'], []]
  let body : List Text :=
    if tables.isEmpty then ["ТАБЛИЦ НЕ НАЙДЕНО"]
    else "ТАБЛИЦЫ (по глубине):".toList :: tables.flatMap tableLines
  Text.join ['\n']
    (head ++ body ++ errorLines (document.getD "errors" .null).items
      ++ ddlLines (document.getD "ddl" .null) ++ timeLines (document.getD "performance" .null)
      ++ [ruleBelow])

end Document
end SchemaAtlas
