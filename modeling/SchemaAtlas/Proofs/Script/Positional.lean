import SchemaAtlas.Proofs.Script.Rows

namespace SchemaAtlas
namespace Script

/-!
Values given by position.

The values of an insertion without column names are put under the columns of its table, in order.
The table knows only the columns that it kept, so a value reaches the column that was declared at
its position exactly where all columns declared before are kept; behind a column that was left out,
every value reaches another column than it was meant for.
-/

variable {parser : SqlParser}

theorem rowsAt_of_found {pairPositional : Bool} {entities : List Entity} {i : Insert} {e : Entity}
    (pairing : pairPositional = true) (unnamed : i.columns = [])
    (found : Entity.find? entities i.table = some e) :
    rowsAt pairPositional entities e.name i = i.values.map (Row.ofCells e.columnNames) := by
  have key : dataKey entities i = e.name := by simp only [dataKey, found]
  simp only [rowsAt, key, if_true, rowsOf, unnamed, List.isEmpty_nil, Bool.not_true,
    Bool.false_eq_true, if_false, found, pairing]
  rfl

/-- Where the value at a position goes.  Take any report, a statement of its script that defined
a table, and an insertion into that table without column names.  The columns of the table are the
declared ones that are kept, and the rows of the insertion stand, in order, among the rows of the
table.  In such a row a column has the value whose position is the number of kept columns
declared before it; this is the value of its own declared position, whatever the values are,
exactly where no column declared before it was left out. -/
theorem cell_of_positional_value {options : ScriptOptions} {script : Text} {reverse : Option Bool}
    {report : ParseReport} (done : read parser options script reverse = .ok report)
    (pairing : options.pairPositional = true) {create insert : Statement}
    {defined inserted : StatementResult} {table : Text} {i : Insert}
    (created : (create, defined) ∈ (Statement.split options.delimiter script).zip report.results)
    (isDefined : defined.isDefined = true) (named : defined.table = some table)
    (given : (insert, inserted) ∈ (Statement.split options.delimiter script).zip report.results)
    (told : insertion? insert inserted = some i) (unnamed : i.columns = [])
    (same : Text.lower i.table = Text.lower table) :
    exists e spelled body, e ∈ report.entities ∧ e.name = table ∧
      Table.header? (Table.unifyTypes create.text) = some (spelled, body) ∧
      e.columnNames = Table.keptNames (Table.declared body) ∧
      (exists before behind, e.rows = before ++ i.values.map (Row.ofCells e.columnNames) ++
        behind) ∧
      forall position column, (Table.declared body)[position]? = some column ->
        column.kept = true ->
        (forall values, (Row.ofCells e.columnNames values).cell? column.name =
          some (values[Table.keptBefore (Table.declared body) position]?.getD .null)) ∧
        ((forall values : List Scalar, values.length = (Table.declared body).length ->
            (Row.ofCells e.columnNames values).cell? column.name = values[position]?) ↔
          forall earlier, earlier ∈ (Table.declared body).take position ->
            earlier.kept = true) := by
  rcases run_of_read done with ⟨last, run, rfl⟩
  rcases run.whole with ⟨_, insertsAre, bare⟩
  rcases run.defined (List.nil_append _).symm created isDefined with
    ⟨source, index, read, sourceNamed, known⟩
  have sourceName : source.name = table := Option.some.inj (sourceNamed.symm.trans named)
  rcases Table.columnNames_ofText read with ⟨spelled, body, header, columns⟩
  let report := reportOf options (reverse.getD options.depth.reverse) last
  have shapes : report.entities.map shape = last.entities.map shape := shape_reportOf _ _ _
  have shaped : (Entity.find? report.entities i.table).map shape = some (shape source) := by
    rw [find?_shape, shapes, ← find?_shape,
      known i.table (same.trans (congrArg Text.lower sourceName.symm))]
    rfl
  rcases Option.map_eq_some_iff.mp shaped with ⟨e, found, sameShape⟩
  rcases Prod.mk.inj sameShape with ⟨sameName, sameColumns⟩
  have member : e ∈ report.entities := List.mem_of_find?_eq_some found
  have columnsAre : e.columnNames = Table.keptNames (Table.declared body) :=
    sameColumns.trans columns
  have gathered : i ∈ last.inserts := by
    rw [insertsAre]
    exact List.mem_filterMap.mpr ⟨_, given, told⟩
  rcases List.append_of_mem gathered with ⟨front, back, split⟩
  have here := rowsAt_of_found pairing unnamed found
  have rows : e.rows = (entryOf (last.inserts.flatMap
      (rowsAt options.pairPositional report.entities e.name))).getD [] := by
    rw [rows_reportOf _ _ bare e member, rowsAt_congr shapes, ← get?_dataOf]
    rfl
  refine ⟨e, spelled, body, member, sameName.trans sourceName, header, columnsAre, ?_, ?_⟩
  · refine ⟨front.flatMap (rowsAt options.pairPositional report.entities e.name),
      back.flatMap (rowsAt options.pairPositional report.entities e.name), ?_⟩
    rw [rows, getD_entryOf, split, List.flatMap_append, List.flatMap_cons, here, List.append_assoc]
  · intro position column there kept
    rw [columnsAre]
    exact ⟨Table.cell?_of_declared body there kept, Table.cell?_at_position_iff body there kept⟩

/-- A definition whose second column is left out, and an insertion of three values. -/
def shiftedScript : Text :=
  "CREATE TABLE t (a INT, b WEIRD, c INT);\nINSERT INTO t VALUES (1, 2, 3);".toList

def shiftedDefinition : Text :=
  "CREATE TABLE t (a INT, b WEIRD, c INT)".toList

def shiftedBody : Text :=
  "(a INT, b WEIRD, c INT)".toList

def threeValues : Insert :=
  ⟨"t".toList, [], [[.int 1, .int 2, .int 3]], none⟩

theorem header_shiftedDefinition :
    Table.header? (Table.unifyTypes shiftedDefinition) = some ("t".toList, shiftedBody) := by
  decide +kernel

theorem declared_shiftedBody :
    Table.declared shiftedBody =
      [⟨"a".toList, true⟩, ⟨"b".toList, false⟩, ⟨"c".toList, true⟩] := by
  decide +kernel

/-- What the report on the script says of its two statements, and its one table. -/
theorem exists_report_shiftedScript :
    exists report create insert defined inserted e,
      read Head.parser .standard shiftedScript none = .ok report ∧
      (Statement.split [';'] shiftedScript).zip report.results =
        [(create, defined), (insert, inserted)] ∧
      create.text = shiftedDefinition ∧ defined.isDefined = true ∧ defined.table = some "t".toList ∧
      insertion? insert inserted = some threeValues ∧
      report.entities = [e] ∧ e.columnNames = ["a".toList, "c".toList] ∧
      e.rows = [.keyed [("a".toList, .int 1), ("c".toList, .int 2)]] := by
  let fates (report : ParseReport) : List (Text × Bool × Option Text × Bool) :=
    ((Statement.split [';'] shiftedScript).zip report.results).map fun pair =>
      (pair.1.text, pair.2.isDefined, pair.2.table, insertion? pair.1 pair.2 == some threeValues)
  let tables (report : ParseReport) : List (List Text × List Row) :=
    report.entities.map fun e => (e.columnNames, e.rows)
  have evaluated : (read Head.parser .standard shiftedScript none).toOption.map (fun report =>
      fates report ==
          [(shiftedDefinition, true, some "t".toList, false),
            ("INSERT INTO t VALUES (1, 2, 3)".toList, false, some "t".toList, true)] &&
        tables report ==
          [(["a".toList, "c".toList], [.keyed [("a".toList, .int 1), ("c".toList, .int 2)]])]) =
        some true := by
    decide +kernel
  rcases exists_ok_of_map_toOption evaluated with ⟨report, done, seen⟩
  rcases (Bool.and_eq_true _ _).mp seen with ⟨fated, tabled⟩
  rcases List.map_eq_cons_iff.mp (eq_of_beq fated) with
    ⟨⟨create, defined⟩, more, listed, first, others⟩
  rcases List.map_eq_singleton_iff.mp others with ⟨⟨insert, inserted⟩, rfl, second⟩
  rcases List.map_eq_singleton_iff.mp (eq_of_beq tabled) with ⟨e, only, table⟩
  simp only [Prod.mk.injEq] at first second table
  exact ⟨report, create, insert, defined, inserted, e, done, listed, first.1, first.2.1,
    first.2.2.1, eq_of_beq second.2.2.2, only, table.1, table.2⟩

/-- The values 1, 2 and 3 stand at the positions of the columns `a`, `b` and `c`.  Not every
column that is kept has the value of its own position: `c` has the second one. -/
theorem third_value_lost :
    exists report e, read Head.parser .standard shiftedScript none = .ok report ∧
      report.entities = [e] ∧ e.columnNames = ["a".toList, "c".toList] ∧
      Table.header? (Table.unifyTypes shiftedDefinition) = some ("t".toList, shiftedBody) ∧
      (Table.declared shiftedBody)[2]? = some ⟨"c".toList, true⟩ ∧
      Insert.ofText "INSERT INTO t VALUES (1, 2, 3)".toList = .ok (some threeValues) ∧
      e.rows = [.keyed [("a".toList, .int 1), ("c".toList, .int 2)]] ∧
      ¬ forall (position : Nat) (column : Table.Declared),
          (Table.declared shiftedBody)[position]? = some column -> column.name ∈ e.columnNames ->
            forall row, row ∈ e.rows ->
              row.cell? column.name = [Scalar.int 1, .int 2, .int 3][position]? := by
  rcases exists_report_shiftedScript with
    ⟨report, _, _, _, _, e, done, _, _, _, _, _, only, columns, rows⟩
  have third : (Table.declared shiftedBody)[2]? = some ⟨"c".toList, true⟩ := by
    rw [declared_shiftedBody]
    rfl
  refine ⟨report, e, done, only, columns, header_shiftedDefinition,
    third, by decide +kernel, rows, ?_⟩
  intro aligned
  have claimed := aligned 2 _ third (columns ▸ by decide) _ (rows ▸ List.mem_singleton_self _)
  revert claimed
  decide

/-- The third column is declared at the third position and is kept, and yet it has the second of the
values: the column before it was left out. -/
theorem second_value_under_third_column :
    exists report e before row behind, read Head.parser .standard shiftedScript none = .ok report ∧
      e ∈ report.entities ∧ e.rows = before ++ [row] ++ behind ∧
      (Table.declared shiftedBody)[2]? = some ⟨"c".toList, true⟩ ∧
      row.cell? "c".toList = some (.int 2) := by
  obtain ⟨report, create, insert, defined, inserted, _, done, pairs, text, isDefined, named,
      told, _⟩ :=
    exists_report_shiftedScript
  have third : (Table.declared shiftedBody)[2]? = some ⟨"c".toList, true⟩ := by
    rw [declared_shiftedBody]
    rfl
  have oneBefore : Table.keptBefore (Table.declared shiftedBody) 2 = 1 := by
    rw [declared_shiftedBody]
    rfl
  have created : (create, defined) ∈ (Statement.split [';'] shiftedScript).zip report.results := by
    rw [pairs]
    exact List.mem_cons_self
  have given : (insert, inserted) ∈ (Statement.split [';'] shiftedScript).zip report.results := by
    rw [pairs]
    exact List.mem_cons_of_mem _ List.mem_cons_self
  obtain ⟨e, spelled, body, member, _, header, _, ⟨before, behind, rows⟩, cells⟩ :=
    cell_of_positional_value done rfl created isDefined named given told rfl rfl
  rw [text, header_shiftedDefinition] at header
  cases header
  refine ⟨report, e, before, _, behind, done, member, rows, third, ?_⟩
  rw [(cells 2 _ third rfl).1, oneBefore]
  rfl

end Script
end SchemaAtlas
