import SchemaAtlas.Document.Part

namespace SchemaAtlas
namespace Document

/-!
Documents as Markdown.
-/

def code (t : Text) : Text :=
  '\x60' :: t ++ ['\x60']

def columnRow (column : Value) : Text :=
  let key : Text :=
    if flag column "primary_key" then (if flag column "auto_increment" then "PK, AI" else "PK")
    else []
  let nullable : Text := if flag column "nullable" then "да" else "нет"
  let default : Text := ((defaultText? column).map code).getD []
  "| ".toList ++ Text.join " | ".toList
    [entryText column "name" [], code (typeText column), nullable, key, default] ++ " |".toList

def tableSection (table : Value) : List Text :=
  ["### ".toList ++ entryText table "name" [] ++ " (глубина ".toList
      ++ entryText table "depth" [] ++ [')'],
    [], "| Колонка | Тип | NULL | Ключ | По умолчанию |", "|---|---|---|---|---|"]
    ++ (table.getD "columns" .null).items.map columnRow ++ [[]]

def errorItem (number : Nat) (error : Value) : List Text :=
  (Text.ofNat number ++ ". **".toList ++ entryText error "code" [] ++ "**: ".toList
      ++ entryText error "error" "N/A")
    :: (error.getD "details" .null).entries.map fun detail =>
      "   - ".toList ++ detail.1 ++ ": ".toList ++ code detail.2.display

def errorSection (errors : List Value) : List Text :=
  if errors.isEmpty then []
  else
    ["## Ошибки".toList] ++ (errors.zipIdx.flatMap fun entry => errorItem (entry.2 + 1) entry.1)
      ++ [[]]

def ddlSection (ddl : Value) : List Text :=
  if ddl.isTruthy then
    ["## DDL (".toList ++ (ddl.getD "dialect" .null).display ++ [')'], "```sql",
     entryText ddl "sql" [], "```", []]
  else []

def markdown (document : Value) : Text :=
  let metadata := document.getD "metadata" .null
  let summary := document.getD "summary" .null
  let tables := (document.getD "entities" .null).items
  let head : List Text :=
    ["# Отчёт об извлечённой схеме", [], "## Метаданные",
     "- **Время анализа:** ".toList ++ entryText metadata "timestamp" "N/A",
     "- **Версия инструмента:** ".toList ++ entryText metadata "version" "N/A",
     "- **Источник:** ".toList ++ availableText metadata "source", [], "## Сводка",
     "- **Таблиц:** ".toList ++ entryText summary "tables" "0",
     "- **Строк данных:** ".toList ++ entryText summary "rows" "0",
     "- **Ошибок разбора:** ".toList ++ entryText summary "statements_failed" "0", [],
     "## Таблицы"]
  let body : List Text :=
    if tables.isEmpty then ["Таблиц не найдено."] else tables.flatMap tableSection
  Text.join ['\n']
    (head ++ body ++ errorSection (document.getD "errors" .null).items
      ++ ddlSection (document.getD "ddl" .null))

end Document
end SchemaAtlas
