import SchemaAtlas.Insert.Data
import SchemaAtlas.Reference.Depth
import SchemaAtlas.Script.Options
import SchemaAtlas.Script.Report
import SchemaAtlas.Statement.Split
import SchemaAtlas.Table.Read

namespace SchemaAtlas
namespace Script

/-!
Reading a script: its statements one by one, then the data joined to the tables, then the depths.

A statement that cannot be read becomes a failed result, and the others are read all the same.
-/

/-- What the statements read so far have given. -/
structure Gathered where
  entities : List Entity
  inserts : List Insert
  results : List StatementResult

namespace Gathered

def empty : Gathered := ⟨[], [], []⟩

end Gathered

/-- The form that drops a table, with the name as spelled. -/
def dropForm : Phrase Text := do
  Phrase.keyword "drop".toList
  Phrase.keyword "table".toList
  Phrase.optional (do
    Phrase.keyword "if".toList
    Phrase.keyword "exists".toList)
  Phrase.runWhere fun c => !Text.isBlank c && c != ',' && c != ';' && c != '('

def droppedTable? (t : Text) : Option Text :=
  (Phrase.search? dropForm t).map fun reading => (QualifiedName.ofText reading.1).table

/-- The failure of an insertion without the usual form. -/
def insertFailure (text : Text) : Failure :=
  .reading .insertion "INSERT не соответствует форме INSERT INTO ... VALUES" none (some text) none

/-- The result of a statement that failed; its error tells the line. -/
def failedResult (s : Statement) (kind : StatementKind) (f : Failure) : StatementResult where
  index := s.index
  kind := kind
  status := .failed
  table := (Keyed.get? "table_name" f.details).bind Value.text?
  rows := 0
  error := some { f with details := Keyed.set "line" (Value.ofNat s.line) f.details }.record

/-- The result of a statement that did not fail. -/
def plainResult (s : Statement) (kind : StatementKind) (status : ResultStatus)
    (table : Option Text) (rows : Nat) : StatementResult :=
  ⟨s.index, kind, status, table, rows, none⟩

/-- One table definition.  A table that is there already stays as it is. -/
def addTable (g : Gathered) (s : Statement) : Gathered :=
  match Table.ofText s.text g.entities.length with
  | .error f => { g with results := g.results ++ [failedResult s .createTable f] }
  | .ok e =>
    match Entity.find? g.entities e.name with
    | some _ =>
      { g with results := g.results ++ [plainResult s .createTable .skipped (some e.name) 0] }
    | none =>
      { g with
        entities := g.entities ++ [e]
        results := g.results ++ [plainResult s .createTable .ok (some e.name) 0] }

def addInsert (g : Gathered) (s : Statement) : Except Fault Gathered :=
  match Insert.ofText s.text with
  | .error .tooManyDigits => .error .tooManyDigits
  | .ok none =>
    .ok { g with results := g.results ++ [failedResult s .insert (insertFailure s.text)] }
  | .ok (some i) =>
    .ok { g with
      inserts := g.inserts ++ [i]
      results := g.results ++ [plainResult s .insert .ok (some i.table) i.values.length] }

def addOfKind (g : Gathered) (s : Statement) : StatementKind -> Except Fault Gathered
  | .createTable => .ok (addTable g s)
  | .insert => addInsert g s
  | .dropTable =>
    .ok { g with
      results := g.results ++ [plainResult s .dropTable .skipped (droppedTable? s.text) 0] }
  | .other => .ok { g with results := g.results ++ [plainResult s .other .skipped none 0] }

/-- One statement, of the kind that the parser tells. -/
def addStatement (parser : SqlParser) (options : ScriptOptions) (g : Gathered) (s : Statement) :
    Except Fault Gathered :=
  match options.headLimit with
  | none => .error .headLimitNotWhole
  | some limit =>
    match StatementKind.ofText parser limit s.text with
    | .error message => .error (.outside message)
    | .ok kind => addOfKind g s kind

/-- The rows of an insertion: under its own columns, else under those of its
table, else by position. -/
def rowsOf (pairPositional : Bool) (entities : List Entity) (i : Insert) : List Row :=
  if !i.columns.isEmpty then i.rows
  else
    match Entity.find? entities i.table with
    | some e =>
      if pairPositional then Insert.rowsUnder e.columnNames i.values
      else i.values.map Row.positional
    | none => i.values.map Row.positional

/-- The name under which the rows of an insertion are kept. -/
def dataKey (entities : List Entity) (i : Insert) : Text :=
  match Entity.find? entities i.table with
  | some e => e.name
  | none => i.table

/-- The data with some more rows of one table. -/
def addRows (data : Keyed (List Row)) (key : Text) (rows : List Row) : Keyed (List Row) :=
  if rows.isEmpty then data else Keyed.set key ((Keyed.get? key data).getD [] ++ rows) data

def dataOf (pairPositional : Bool) (entities : List Entity) (inserts : List Insert) :
    Keyed (List Row) :=
  inserts.foldl
    (fun data i => addRows data (dataKey entities i) (rowsOf pairPositional entities i)) []

def withData (data : Keyed (List Row)) (entities : List Entity) : List Entity :=
  entities.map fun e => { e with rows := (Keyed.get? e.name data).getD e.rows }

/-- The report on what was gathered.  Reading is a function, so its stages take no time. -/
def reportOf (options : ScriptOptions) (reverse : Bool) (g : Gathered) : ParseReport :=
  let data := dataOf options.pairPositional g.entities g.inserts
  { entities :=
      Depth.calculate options.depth.matcher.matcher reverse (withData data g.entities)
    data := data
    results := g.results
    stats :=
      { times := [("split_time", Stats.instant), ("parse_time", Stats.instant),
          ("depth_time", Stats.instant), ("total_time", Stats.instant)]
        counts := [("statements", g.results.length), ("tables", g.entities.length),
          ("failed", (g.results.filter fun r => r.status == .failed).length)] } }

def gather (parser : SqlParser) (options : ScriptOptions) (script : Text) : Except Fault Gathered :=
  (Statement.split options.delimiter script).foldlM (addStatement parser options) Gathered.empty

/-- The report on a script.  Depths are counted from the end that is asked for, or else from the
end that the options name. -/
def read (parser : SqlParser) (options : ScriptOptions) (script : Text) (reverse : Option Bool) :
    Except Fault ParseReport :=
  (gather parser options script).map (reportOf options (reverse.getD options.depth.reverse))

end Script
end SchemaAtlas
