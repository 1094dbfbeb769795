import SchemaAtlas.Reference.Depth
import SchemaAtlas.Script.Report
import SchemaAtlas.Value.Display

namespace SchemaAtlas
namespace Document

/-!
Report documents: everything that is said about a schema, as one value with named sections.
-/

/-- The tool and the version that a document names, and whether it shows the data. -/
structure Options where
  tool : Value
  version : Value
  includeRows : Bool

def Options.ofSettings (given : Keyed Value) : Options where
  tool := (Keyed.get? "tool_name" given).getD (.text "SQL Schema Extractor")
  version := (Keyed.get? "version" given).getD (.text "1.0.0")
  includeRows := ((Keyed.get? "include_rows" given).getD (.bool false)).isTruthy

/-- Definitions in a dialect that a document shows, with the name that the
dialect was asked for by. -/
structure Definitions where
  dialect : Value
  sql : Text

def countStatus (results : List StatementResult) (status : ResultStatus) : Nat :=
  (results.filter fun r => r.status == status).length

def greatestDepth : List Entity -> Int
  | [] => 0
  | e :: es => es.foldl (fun deepest other => max deepest other.depth) e.depth

/-- The numbers at the head of a document. -/
def summary (r : ParseReport) : Value :=
  .mapping
    [("tables", Value.ofNat r.entities.length),
     ("columns", Value.ofNat (r.entities.flatMap fun e => e.columns).length),
     ("rows", Value.ofNat (r.data.flatMap fun entry => entry.2).length),
     ("statements", Value.ofNat r.results.length),
     ("statements_ok", Value.ofNat (countStatus r.results .ok)),
     ("statements_skipped", Value.ofNat (countStatus r.results .skipped)),
     ("statements_failed", Value.ofNat (countStatus r.results .failed)),
     ("max_depth", .int (greatestDepth r.entities))]

/-- The document on a report, with the tables in the order of their depths. -/
def ofReport (o : Options) (timestamp : Text) (r : ParseReport) (source : Option Text)
    (definitions : Option Definitions) (descending : Bool) (overrides : Keyed Value) : Value :=
  let metadata : Keyed Value :=
    [("timestamp", .text timestamp), ("version", o.version), ("tool", o.tool),
     ("source", Value.ofOption Value.text source)]
  let sections : Keyed Value :=
    [("metadata", .mapping (Keyed.update metadata overrides)),
     ("summary", summary r),
     ("entities", .list ((Depth.sort descending r.entities).map Entity.toValue)),
     ("statements", .list (r.results.map StatementResult.toValue)),
     ("errors", .list (r.errors.map Value.mapping)),
     ("performance", .mapping (r.stats.times.map fun e => (e.1, .real e.2)))]
  let data : Keyed Value := if o.includeRows then [("data", r.dataValue)] else []
  let ddl : Keyed Value := definitions.toList.map fun d =>
    ("ddl".toList, .mapping [("dialect", d.dialect), ("sql", .text d.sql)])
  .mapping (sections ++ data ++ ddl)

/-- The document on a failure that left nothing to report. -/
def ofFailure (o : Options) (timestamp : Text) (error : Value) (source : Option Text) : Value :=
  .mapping
    [("metadata", .mapping
      [("timestamp", .text timestamp), ("status", .text "ERROR"), ("version", o.version),
       ("tool", o.tool), ("source", Value.ofOption Value.text source)]),
     ("summary", summary ⟨[], [], [], Stats.none⟩),
     ("entities", .list []),
     ("statements", .list []),
     ("errors", .list [error]),
     ("performance", .mapping [])]

end Document
end SchemaAtlas
