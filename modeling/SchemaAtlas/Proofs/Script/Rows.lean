import SchemaAtlas.Engine.Head.Parser
import SchemaAtlas.Proofs.Reference.Calculate
import SchemaAtlas.Proofs.Script.Data
import SchemaAtlas.Proofs.Script.Gather

namespace SchemaAtlas

/-!
The rows of a report.

Insertions are gathered statement by statement and joined to the tables afterwards, when all tables
are known.  A report therefore has, under each name, the rows of the insertions whose table is known
by that name, whether the table was defined before them or behind them.
-/

namespace Script

variable {parser : SqlParser}

theorem sum_rows_of_answers {options : ScriptOptions} {statements : List Statement}
    {results : List StatementResult}
    (answered : List.Forall₂ (Answers parser options) statements results) :
    total StatementResult.rows (results.filter StatementResult.isInserted) =
      total (fun i => i.values.length) (insertions statements results) := by
  induction answered with
  | nil => rfl
  | @cons s r statements results answers later ih =>
      rw [insertions_cons]
      cases inserted : r.isInserted with
      | false =>
          rw [List.filter_cons_of_neg (by simp [inserted]), insertion?_eq_none inserted, ih]
          rfl
      | true =>
          rcases answers.inserted.mp inserted with ⟨_, i, read⟩
          have told := insertion?_eq_some inserted read
          rw [List.filter_cons_of_pos inserted, told, total_cons, ih, answers.rows i told]
          rfl

/-! Tables before and after the data is joined to them. -/

/-- What of a table bears on its data: its name and the names of its columns. -/
def shape (e : Entity) : Text × List Text :=
  (e.name, e.columnNames)

theorem find?_shape (entities : List Entity) (name : Text) :
    (Entity.find? entities name).map shape =
      (entities.map shape).find? fun s => Text.lower s.1 == Text.lower name := by
  rw [List.find?_map]
  rfl

theorem dataKey_congr {entities others : List Entity} (same : entities.map shape = others.map shape)
    (i : Insert) : dataKey entities i = dataKey others i := by
  have byShape : forall tables : List Entity, dataKey tables i =
      (((Entity.find? tables i.table).map shape).map Prod.fst).getD i.table := by
    intro tables
    unfold dataKey
    cases Entity.find? tables i.table with
    | none => rfl
    | some e => rfl
  rw [byShape, byShape, find?_shape, find?_shape, same]

theorem rowsOf_congr {entities others : List Entity} (same : entities.map shape = others.map shape)
    (pairPositional : Bool) (i : Insert) :
    rowsOf pairPositional entities i = rowsOf pairPositional others i := by
  have byShape : forall tables : List Entity, rowsOf pairPositional tables i =
      if !i.columns.isEmpty then i.rows
      else
        match (Entity.find? tables i.table).map shape with
        | some s =>
            if pairPositional then Insert.rowsUnder s.2 i.values else i.values.map Row.positional
        | none => i.values.map Row.positional := by
    intro tables
    unfold rowsOf
    cases Entity.find? tables i.table with
    | none => rfl
    | some e => rfl
  rw [byShape, byShape, find?_shape, find?_shape, same]

theorem rowsAt_congr {entities others : List Entity} (same : entities.map shape = others.map shape)
    (pairPositional : Bool) (key : Text) :
    rowsAt pairPositional entities key = rowsAt pairPositional others key := by
  funext i
  rw [rowsAt, rowsAt, dataKey_congr same, rowsOf_congr same]

/-- Whatever looks neither at depths nor at data is the same of the tables of a report and of
those that were gathered. -/
theorem map_reportOf {β : Type} (f : Entity -> β)
    (blind : forall (e : Entity) (depth : Int) (rows : List Row),
      f { e with depth := depth, rows := rows } = f e)
    (options : ScriptOptions) (reverse : Bool) (g : Gathered) :
    (reportOf options reverse g).entities.map f = g.entities.map f := by
  have joined : forall data : Keyed (List Row),
      (withData data g.entities).map f = g.entities.map f := by
    intro data
    rw [withData, List.map_map]
    exact List.map_congr_left fun e _ => blind e e.depth _
  exact (Depth.map_calculate f (fun e depth => blind e depth e.rows) _ _ _).trans (joined _)

theorem shape_reportOf (options : ScriptOptions) (reverse : Bool) (g : Gathered) :
    (reportOf options reverse g).entities.map shape = g.entities.map shape :=
  map_reportOf shape (fun _ _ _ => rfl) options reverse g

/-- Each table of a report has the rows that stand under its name. -/
theorem rows_reportOf (options : ScriptOptions) (reverse : Bool) {g : Gathered}
    (bare : forall e, e ∈ g.entities -> e.rows = []) (e : Entity)
    (member : e ∈ (reportOf options reverse g).entities) :
    e.rows = (Keyed.get? e.name (reportOf options reverse g).data).getD [] := by
  let data := dataOf options.pairPositional g.entities g.inserts
  let view : Entity -> Text × List Row := fun e => (e.name, e.rows)
  have same : (reportOf options reverse g).entities.map view =
      (withData data g.entities).map view :=
    Depth.map_calculate view (fun _ _ => rfl) _ _ _
  have seen : view e ∈ (withData data g.entities).map view := same ▸ List.mem_map_of_mem member
  rcases List.mem_map.mp seen with ⟨joined, inJoined, equal⟩
  rcases List.mem_map.mp inJoined with ⟨source, inSource, rfl⟩
  rcases Prod.mk.inj equal with ⟨name, rows⟩
  change (Keyed.get? source.name data).getD source.rows = e.rows at rows
  change source.name = e.name at name
  rw [bare source inSource, name] at rows
  exact rows.symm

/-! The rows of a report. -/

/-- The name by which a table is known: that of a table of the list, whatever its case, or
else the name as it is. -/
def knownName (entities : List Entity) (table : Text) : Text :=
  ((Entity.find? entities table).map Entity.name).getD table

/-- The rows that a statement and its result give to a name: those of the insertion, where the table
of the result is known by that name. -/
def rowsGiven (pairPositional : Bool) (entities : List Entity) (key : Text) (s : Statement)
    (r : StatementResult) : List Row :=
  if r.table.map (knownName entities) = some key then
    (insertion? s r).toList.flatMap (rowsOf pairPositional entities)
  else []

theorem dataKey_eq_knownName (entities : List Entity) (i : Insert) :
    dataKey entities i = knownName entities i.table := by
  unfold dataKey knownName
  cases Entity.find? entities i.table with
  | none => rfl
  | some e => rfl

theorem flatMap_rowsGiven (pairPositional : Bool) (entities : List Entity) (key : Text)
    {options : ScriptOptions} {statements : List Statement} {results : List StatementResult}
    (answered : List.Forall₂ (Answers parser options) statements results) :
    ((statements.zip results).flatMap
      fun pair => rowsGiven pairPositional entities key pair.1 pair.2) =
      (insertions statements results).flatMap (rowsAt pairPositional entities key) := by
  induction answered with
  | nil => rfl
  | @cons s r statements results answers later ih =>
      have here : rowsGiven pairPositional entities key s r =
          (insertion? s r).toList.flatMap (rowsAt pairPositional entities key) := by
        unfold rowsGiven
        cases told : insertion? s r with
        | none => simp
        | some i =>
            rw [answers.table i told]
            simp [rowsAt, dataKey_eq_knownName]
      rw [insertions_cons, List.flatMap_append, List.zip_cons_cons, List.flatMap_cons, here, ih]

/-- No row of an insertion is lost, repeated or moved.  The results stand for the statements one
by one.  Under each name are the rows of the insertions that were read and whose table is known
by that name, in the order of the statements.  There are as many rows in all as the results say,
and each table has the rows under its name. -/
structure KeepsRows (parser : SqlParser) (options : ScriptOptions) (script : Text)
    (report : ParseReport) : Prop where
  answered : List.Forall₂ (Answers parser options)
    (Statement.split options.delimiter script) report.results
  distinct : (Keyed.names report.data).Nodup
  ordered : forall key, Keyed.get? key report.data =
    entryOf (((Statement.split options.delimiter script).zip report.results).flatMap fun pair =>
      rowsGiven options.pairPositional report.entities key pair.1 pair.2)
  counted : total (fun entry => entry.2.length) report.data =
    total StatementResult.rows (report.results.filter StatementResult.isInserted)
  joined : forall e, e ∈ report.entities -> e.rows = (Keyed.get? e.name report.data).getD []

/-- Every report on a script keeps the rows of its insertions. -/
theorem keepsRows_of_read {options : ScriptOptions} {script : Text} {reverse : Option Bool}
    {report : ParseReport} (done : read parser options script reverse = .ok report) :
    KeepsRows parser options script report := by
  rcases run_of_read done with ⟨last, run, rfl⟩
  rcases run.whole with ⟨answered, insertsAre, bare⟩
  refine ⟨answered, (tidy_dataOf _ _ _).distinct, ?_, ?_, rows_reportOf _ _ bare⟩
  · intro key
    have atKey := rowsAt_congr (shape_reportOf options (reverse.getD options.depth.reverse) last)
      options.pairPositional key
    change Keyed.get? key (dataOf _ last.entities last.inserts) = _
    rw [get?_dataOf, insertsAre, ← atKey]
    exact congrArg entryOf (flatMap_rowsGiven _ _ key answered).symm
  · change rowCount (dataOf _ last.entities last.inserts) = _
    rw [rowCount_dataOf, insertsAre]
    exact (sum_rows_of_answers answered).symm

/-- Insertions on both sides of a definition, in other letters than its own. -/
def surroundedScript : Text :=
  "INSERT INTO T VALUES (1), (2);\nCREATE TABLE t (a INT);\nINSERT INTO t (a) VALUES (3);"

/-- All three rows stand under the name of the table. -/
theorem keepsRows_around_definition :
    exists report, read Head.parser .standard surroundedScript none = .ok report ∧
      KeepsRows Head.parser .standard surroundedScript report ∧
      report.data =
        [("t".toList, [1, 2, 3].map fun n => Row.keyed [("a".toList, Scalar.int n)])] := by
  have evaluated : (read Head.parser .standard surroundedScript none).toOption.map
      ParseReport.data =
        some [("t".toList, [1, 2, 3].map fun n => Row.keyed [("a".toList, Scalar.int n)])] := by
    decide +kernel
  rcases exists_ok_of_map_toOption evaluated with ⟨report, done, data⟩
  exact ⟨report, done, keepsRows_of_read done, data⟩

end Script
end SchemaAtlas
