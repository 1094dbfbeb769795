import SchemaAtlas.Statement.Kind
import SchemaAtlas.Table.Entity

namespace SchemaAtlas

/-!
What reading a script, or a database, gives: tables, data, and one result for each statement.
-/

/-- How a statement fared. -/
inductive ResultStatus where
  | ok
  | skipped
  | failed
deriving DecidableEq

/-- The result of one statement. -/
structure StatementResult where
  index : Nat
  kind : StatementKind
  status : ResultStatus
  table : Option Text
  rows : Nat
  error : Option (Keyed Value)

/-- The seconds that the stages took, and the numbers of things found. -/
structure Stats where
  times : Keyed Binary64
  counts : Keyed Nat

/-- Tables, data by table, results of statements, and statistics. -/
structure ParseReport where
  entities : List Entity
  data : Keyed (List Row)
  results : List StatementResult
  stats : Stats

namespace ResultStatus

def label : ResultStatus -> Text
  | .ok => "ok"
  | .skipped => "skipped"
  | .failed => "failed"

end ResultStatus

namespace StatementResult

def toValue (r : StatementResult) : Value :=
  .mapping
    [("index", Value.ofNat r.index),
     ("kind", .text r.kind.label),
     ("status", .text r.status.label),
     ("table", Value.ofOption Value.text r.table),
     ("rows", Value.ofNat r.rows),
     ("error", Value.ofOption Value.mapping r.error)]

end StatementResult

namespace Stats

/-- No statistics. -/
def none : Stats := ⟨[], []⟩

/-- No time at all. -/
def instant : Binary64 := Binary64.zero false

def toValue (s : Stats) : Value :=
  .mapping (s.times.map (fun e => (e.1, .real e.2)) ++ s.counts.map fun e => (e.1, Value.ofNat e.2))

end Stats

namespace ParseReport

def failed (r : ParseReport) : List StatementResult :=
  r.results.filter fun result => result.status == .failed

/-- The errors of the statements that failed; an error without content does not count. -/
def errors (r : ParseReport) : List (Keyed Value) :=
  (r.failed.filterMap StatementResult.error).filter fun error => !error.isEmpty

/-- The first table of a name, whatever its case. -/
def entity? (r : ParseReport) (name : Text) : Option Entity :=
  Entity.find? r.entities name

def dataValue (r : ParseReport) : Value :=
  .mapping (r.data.map fun entry => (entry.1, .list (entry.2.map Row.toValue)))

def toValue (r : ParseReport) : Value :=
  .mapping
    [("entities", .list (r.entities.map Entity.toValue)),
     ("data", r.dataValue),
     ("results", .list (r.results.map StatementResult.toValue)),
     ("errors", .list (r.errors.map Value.mapping)),
     ("stats", r.stats.toValue)]

end ParseReport
end SchemaAtlas
