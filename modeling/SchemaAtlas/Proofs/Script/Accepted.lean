import SchemaAtlas.Engine.Head.Parser
import SchemaAtlas.Proofs.Script.Gather

namespace SchemaAtlas
namespace Script

/-!
Statements that leave no trace.

A statement is accepted where its result is in order; all others fail or are passed over.  What a
run keeps besides its results is told by the texts of the accepted statements alone: a table is
numbered by the tables kept before it, never by its place in the script.  So two scripts with the
same accepted texts have the same tables and the same data, whatever else they hold and whichever
parser tells the kinds.
-/

variable {parser : SqlParser}

/-- The text of a statement, where its result says that it was accepted. -/
def accepted? (s : Statement) (r : StatementResult) : Option Text :=
  if r.status = .ok then some s.text else none

/-- The texts of the statements that were accepted, in order. -/
def acceptedTexts (statements : List Statement) (results : List StatementResult) : List Text :=
  (statements.zip results).filterMap fun pair => accepted? pair.1 pair.2

theorem acceptedTexts_cons (s : Statement) (r : StatementResult) (statements : List Statement)
    (results : List StatementResult) :
    acceptedTexts (s :: statements) (r :: results) = (accepted? s r).toList ++
      acceptedTexts statements results :=
  filterMap_zip_cons accepted? s r statements results

/-- Tables and insertions, as a run gathers them. -/
structure Kept where
  tables : List Entity
  insertions : List Insert

/-- What a run keeps besides its results. -/
def Gathered.kept (g : Gathered) : Kept :=
  ⟨g.entities, g.inserts⟩

namespace Kept

/-- One more accepted text: the table that it defines, or the insertion that it is. -/
def absorb (parser : SqlParser) (options : ScriptOptions) (k : Kept) (text : Text) : Kept :=
  match textKind? parser options text with
  | some .createTable =>
    match Table.ofText text k.tables.length with
    | .ok e => { k with tables := k.tables ++ [e] }
    | .error _ => k
  | some .insert =>
    match Insert.ofText text with
    | .ok (some i) => { k with insertions := k.insertions ++ [i] }
    | _ => k
  | _ => k

theorem absorb_table {options : ScriptOptions} {s : Statement} {k : Kept} {e : Entity}
    (kind : kind? parser options s = some .createTable)
    (read : Table.ofText s.text k.tables.length = .ok e) :
    k.absorb parser options s.text = { k with tables := k.tables ++ [e] } := by
  change textKind? parser options s.text = _ at kind
  simp only [absorb, kind, read]

theorem absorb_insert {options : ScriptOptions} {s : Statement} {i : Insert} (k : Kept)
    (kind : kind? parser options s = some .insert) (read : Insert.ofText s.text = .ok (some i)) :
    k.absorb parser options s.text = { k with insertions := k.insertions ++ [i] } := by
  change textKind? parser options s.text = _ at kind
  simp only [absorb, kind, read]

end Kept

/-- A step keeps what its text gives where the statement is accepted, and else nothing new. -/
theorem Step.kept {options : ScriptOptions} {g g' : Gathered} {s : Statement}
    (step : Step parser options g s g') : exists r, g'.results = g.results ++ [r] ∧
      g'.kept = (accepted? s r).toList.foldl (Kept.absorb parser options) g.kept := by
  cases step with
  | tableFailed kind read => exact ⟨_, rfl, rfl⟩
  | tableKnown kind read found => exact ⟨_, rfl, rfl⟩
  | tableAdded kind read fresh => exact ⟨_, rfl, (Kept.absorb_table (k := g.kept) kind read).symm⟩
  | insertFailed kind read => exact ⟨_, rfl, rfl⟩
  | insertAdded kind read => exact ⟨_, rfl, (Kept.absorb_insert g.kept kind read).symm⟩
  | dropped kind => exact ⟨_, rfl, rfl⟩
  | passed kind => exact ⟨_, rfl, rfl⟩

/-- A run keeps what its accepted texts give, one after another. -/
theorem Run.kept {options : ScriptOptions} {g last : Gathered} {statements : List Statement}
    (run : Run parser options g statements last) :
    exists results, last.results = g.results ++ results ∧
      last.kept = (acceptedTexts statements results).foldl (Kept.absorb parser options) g.kept := by
  induction run with
  | nil g => exact ⟨[], (List.append_nil _).symm, rfl⟩
  | @cons g next last s rest step later ih =>
      rcases step.kept with ⟨r, result, here⟩
      rcases ih with ⟨results, laterResults, there⟩
      refine ⟨r :: results, ?_, ?_⟩
      · rw [laterResults, result, List.append_assoc, List.singleton_append]
      · rw [there, here, acceptedTexts_cons, List.foldl_append]

/-- The tables and the data of a report depend on what is kept, and not on the results. -/
theorem reportOf_of_kept (options : ScriptOptions) (reverse : Bool) {g h : Gathered}
    (same : g.kept = h.kept) :
    (reportOf options reverse g).entities = (reportOf options reverse h).entities ∧
      (reportOf options reverse g).data = (reportOf options reverse h).data := by
  rcases Kept.mk.inj same with ⟨tables, insertions⟩
  simp only [reportOf, tables, insertions, and_self]

/-- Statements that are not accepted leave no trace.  Two scripts that are read by the same
parser under the same options and whose accepted statements have the same texts in the same order
give the same tables, with everything that belongs to them, and the same data. -/
theorem report_of_accepted_texts {options : ScriptOptions} {first second : Text}
    {reverse : Option Bool} {report other : ParseReport}
    (done : read parser options first reverse = .ok report)
    (again : read parser options second reverse = .ok other)
    (same : acceptedTexts (Statement.split options.delimiter first) report.results =
      acceptedTexts (Statement.split options.delimiter second) other.results) :
    report.entities = other.entities ∧ report.data = other.data := by
  rcases run_of_read done with ⟨last, run, rfl⟩
  rcases run_of_read again with ⟨otherLast, otherRun, rfl⟩
  rcases run.kept with ⟨results, resultsAre, kept⟩
  rcases otherRun.kept with ⟨otherResults, otherResultsAre, otherKept⟩
  have told : last.results = results := resultsAre
  have otherTold : otherLast.results = otherResults := otherResultsAre
  change acceptedTexts _ last.results = acceptedTexts _ otherLast.results at same
  apply reportOf_of_kept
  rw [kept, otherKept, ← told, ← otherTold, same]

def cleanScript : Text :=
  "CREATE TABLE t (a INT);\nINSERT INTO t VALUES (1);".toList

/-- The same table and row among statements that fail or are passed over: one that drops a table, a
definition that cannot be read, a second definition of the table, an insertion without values, and a
query. -/
def clutteredScript : Text :=
  ("DROP TABLE t;\nCREATE TABLE u;\nCREATE TABLE t (a INT);\nCREATE TABLE T (b INT);\n" ++
    "INSERT INTO t;\nINSERT INTO t VALUES (1);\nSELECT 1;").toList

/-- Five statements of seven leave no trace. -/
theorem report_of_cluttered_script :
    exists report other, read Head.parser .standard cleanScript none = .ok report ∧
      read Head.parser .standard clutteredScript none = .ok other ∧
      acceptedTexts (Statement.split [';'] cleanScript) report.results =
        acceptedTexts (Statement.split [';'] clutteredScript) other.results ∧
      (acceptedTexts (Statement.split [';'] clutteredScript) other.results).length = 2 ∧
      other.results.length = 7 ∧
      report.entities = other.entities ∧ report.data = other.data := by
  let texts : List Text := ["CREATE TABLE t (a INT)".toList, "INSERT INTO t VALUES (1)".toList]
  have clean : (read Head.parser .standard cleanScript none).toOption.map
      (fun report => acceptedTexts (Statement.split [';'] cleanScript) report.results) =
        some texts := by
    decide +kernel
  have cluttered : (read Head.parser .standard clutteredScript none).toOption.map
      (fun report => (acceptedTexts (Statement.split [';'] clutteredScript) report.results,
        report.results.length)) =
        some (texts, 7) := by
    decide +kernel
  rcases exists_ok_of_map_toOption clean with ⟨report, done, accepted⟩
  rcases exists_ok_of_map_toOption cluttered with ⟨other, again, pair⟩
  rcases Prod.mk.inj pair with ⟨otherAccepted, count⟩
  have same := accepted.trans otherAccepted.symm
  have size := congrArg List.length otherAccepted
  exact ⟨report, other, done, again, same, size, count, report_of_accepted_texts done again same⟩

end Script
end SchemaAtlas
