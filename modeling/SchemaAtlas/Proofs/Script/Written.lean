import SchemaAtlas.Proofs.Engine.Head
import SchemaAtlas.Proofs.Insert.Written
import SchemaAtlas.Proofs.Script.Rows
import SchemaAtlas.Proofs.Statement.Kind
import SchemaAtlas.Proofs.Statement.Lines

namespace SchemaAtlas

/-!
Scripts of written insertions.

Each record is written as one line, the lines make a script, and the script is read as any other.
Splitting gives the statements of the records, each statement is known as an insertion by any parser
that knows insertions at all, and each insertion is the one of its record.  So the data of the
report is that of the records, table by table and in order.
-/

namespace Insert

/-- A statement whose values end with a parenthesis fills its line, with the delimiter behind it. -/
theorem standsAlone_statementText {table columns values : Text}
    (unbroken : Text.Unbroken (statementText table columns values))
    (ends : exists front, values = front ++ [')']) :
    Statement.StandsAlone [';'] (statementText table columns values) := by
  have begins : forall rest, exists more,
      statementText table columns values ++ rest = 'I' :: ("NSERT INTO ".toList ++ more) := by
    intro rest
    exact ⟨table ++ (" (".toList ++ (columns ++ (") VALUES ".toList ++ values))) ++ rest, rfl⟩
  have closes : exists before, statementText table columns values = before ++ [')'] := by
    rcases ends with ⟨front, same⟩
    refine ⟨"INSERT INTO ".toList ++
      (table ++ (" (".toList ++ (columns ++ (") VALUES ".toList ++ front)))), ?_⟩
    unfold statementText
    rw [same]
    simp only [List.append_assoc]
  rcases closes with ⟨before, closed⟩
  rcases begins [] with ⟨bare, bareIs⟩
  rcases begins [';'] with ⟨more, moreIs⟩
  rw [List.append_nil] at bareIs
  have semicolon : Text.Unbroken [';'] := ⟨by decide, by decide⟩
  refine ⟨unbroken.append semicolon, ⟨?_, ?_⟩, ⟨?_, ?_⟩, ?_, by decide, ?_, ?_⟩
  · rw [moreIs]
    exact Text.fails_at_head 'I' _ (by decide)
  · intro c last
    rw [List.getLast?_append] at last
    cases last
    decide
  · rw [bareIs]
    exact Text.fails_at_head 'I' _ (by decide)
  · intro c last
    rw [closed, List.getLast?_append] at last
    cases last
    decide
  · rw [bareIs]
    exact List.cons_ne_nil _ _
  · rw [moreIs]
    rfl
  · rw [moreIs]
    rfl

namespace Record

def line (r : Record) : Text :=
  r.statement ++ [';']

theorem valuesText_ends (r : Record) : exists front, r.valuesText = front ++ [')'] := by
  have ends : forall (first : Text) (rest : List Text),
      exists front, Text.join ", ".toList ((first :: rest).map inParens) = front ++ [')'] := by
    intro first rest
    induction rest generalizing first with
    | nil => exact ⟨'(' :: first, Text.join_singleton _ _⟩
    | cons second rest ih =>
        rcases ih second with ⟨front, same⟩
        refine ⟨inParens first ++ ", ".toList ++ front, ?_⟩
        rw [List.map_cons, List.map_cons, Text.join_cons_cons, ← List.map_cons, same]
        simp only [List.append_assoc]
  unfold valuesText
  cases rows : r.rows with
  | nil => exact absurd rows r.rows_ne_nil
  | cons first rest => exact ends (writtenRow first) (rest.map writtenRow)

/-- The line of a record holds its statement and nothing else. -/
theorem standsAlone_statement (r : Record) : Statement.StandsAlone [';'] r.statement :=
  standsAlone_statementText r.statement_unbroken r.valuesText_ends

theorem ofText_kind {parser : SqlParser} (knows : parser.KnowsInsertions) (r : Record) :
    StatementKind.ofText parser 1024 r.statement = .ok .insert :=
  StatementKind.ofText_insert knows (by decide) _

end Record
end Insert

namespace Script

variable {parser : SqlParser}

/-- The script of some records has their statements, in order. -/
theorem text_split_records (records : List Insert.Record) :
    (Statement.split [';'] (Text.join ['\n'] (records.map Insert.Record.line))).map Statement.text =
      records.map Insert.Record.statement := by
  have lines : records.map Insert.Record.line = (records.map Insert.Record.statement).map
      (· ++ [';']) := by
    rw [List.map_map]
    rfl
  rw [lines]
  apply Statement.text_split_join
  intro body member
  rcases List.mem_map.mp member with ⟨r, _, rfl⟩
  exact r.standsAlone_statement

/-- The result of a statement that inserts a record. -/
def recordResult (s : Statement) (r : Insert.Record) : StatementResult :=
  plainResult s .insert .ok (some r.table) r.rows.length

/-- The statements of records make a run that gathers their insertions. -/
theorem run_of_records (knows : parser.KnowsInsertions) {statements : List Statement}
    {records : List Insert.Record}
    (texts : statements.map Statement.text = records.map Insert.Record.statement) (g : Gathered) :
    Run parser .standard g statements
      { g with
        inserts := g.inserts ++ records.map Insert.Record.insert
        results := g.results ++ statements.zipWith recordResult records } := by
  induction statements generalizing records g with
  | nil =>
      cases records with
      | nil => simpa only [List.map_nil, List.zipWith_nil_left, List.append_nil] using Run.nil g
      | cons r records => cases texts
  | cons s statements ih =>
      cases records with
      | nil => cases texts
      | cons r records =>
          rcases List.cons.inj texts with ⟨text, rest⟩
          have kind : kind? parser .standard s = some .insert := by
            change (StatementKind.ofText parser 1024 s.text).toOption = _
            rw [text, r.ofText_kind knows]
            rfl
          have read : Insert.ofText s.text = .ok (some r.insert) := by
            rw [text, r.ofText_statement]
          have result : plainResult s .insert .ok (some r.table) r.insert.values.length =
              recordResult s r :=
            congrArg (plainResult s .insert .ok (some r.table)) (List.length_map _)
          have step := Step.insertAdded (g := g) kind read
          change Step parser .standard g s
            { g with
              inserts := g.inserts ++ [r.insert]
              results := g.results ++
                [plainResult s .insert .ok (some r.table) r.insert.values.length] } at step
          rw [result] at step
          have later := ih rest
            { g with inserts := g.inserts ++ [r.insert], results :=
              g.results ++ [recordResult s r] }
          simp only [List.append_assoc, List.singleton_append] at later
          exact Run.cons step later

/-- Without tables, the rows of a record stand under the name of its table. -/
theorem rowsAt_record (pairPositional : Bool) (table : Text) (r : Insert.Record) :
    rowsAt pairPositional [] table r.insert = if r.table = table then r.data else [] := by
  have named : r.insert.columns.isEmpty = false := List.isEmpty_eq_false_iff.mpr r.columns_ne_nil
  have rows : rowsOf pairPositional [] r.insert = r.data := by
    rw [rowsOf, named, r.rows_insert]
    rfl
  rw [rowsAt, rows]
  rfl

theorem flatMap_rowsAt_records (pairPositional : Bool) (table : Text)
    (records : List Insert.Record) :
    (records.map Insert.Record.insert).flatMap (rowsAt pairPositional [] table) =
      (records.filter fun r => r.table = table).flatMap Insert.Record.data := by
  induction records with
  | nil => rfl
  | cons r rest ih =>
      rw [List.map_cons, List.flatMap_cons, rowsAt_record, ih]
      by_cases same : r.table = table
      · rw [if_pos same, List.filter_cons_of_pos (by simpa using same), List.flatMap_cons]
      · rw [if_neg same, List.filter_cons_of_neg (by simpa using same), List.nil_append]

/-- Written data is read back.  Whatever records are written line by line, and whichever parser
that knows insertions is at hand, the script is read without a failure, with one result for each
record, and the data of each table is that of its records, row by row in the order of the script. -/
theorem data_read_of_records (knows : parser.KnowsInsertions) (records : List Insert.Record)
    (reverse : Option Bool) :
    ScriptOptions.ofSettings [] = .ok .standard ∧
    exists report, read parser .standard
      (Text.join ['\n'] (records.map Insert.Record.line)) reverse = .ok report ∧
      report.results.length = records.length ∧
      (forall result, result ∈ report.results -> result.status = .ok) ∧
      forall table, Keyed.get? table report.data =
        entryOf ((records.filter fun r => r.table = table).flatMap Insert.Record.data) := by
  refine ⟨ScriptOptions.ofSettings_nil, ?_⟩
  let statements := Statement.split [';'] (Text.join ['\n'] (records.map Insert.Record.line))
  have texts : statements.map Statement.text = records.map Insert.Record.statement :=
    text_split_records records
  have count : statements.length = records.length := by
    simpa only [List.length_map] using congrArg List.length texts
  have run := run_of_records knows texts Gathered.empty
  have gathered := gather_eq_ok_iff.mpr run
  refine ⟨reportOf .standard (reverse.getD ScriptOptions.standard.depth.reverse)
    { Gathered.empty with
      inserts := [] ++ records.map Insert.Record.insert
      results := [] ++ statements.zipWith recordResult records }, ?_, ?_, ?_, ?_⟩
  · rw [read]
    exact congrArg (Except.map _) gathered
  · change (statements.zipWith recordResult records).length = records.length
    rw [List.length_zipWith, count, Nat.min_self]
  · intro result member
    change result ∈ statements.zipWith recordResult records at member
    rw [← List.map_uncurry_zip_eq_zipWith] at member
    rcases List.mem_map.mp member with ⟨pair, _, rfl⟩
    rfl
  · intro table
    change Keyed.get? table (dataOf true [] (records.map Insert.Record.insert)) = _
    rw [get?_dataOf, flatMap_rowsAt_records]

/-- Two rows, with a text that holds a quote, a backslash, a parenthesis, a delimiter and dashes. -/
def awkwardRecord : Insert.Record where
  table := "t".toList
  columns := ["a".toList, "b".toList]
  rows := [[.null, .line "it's \\ (1); --".toList ⟨by decide, by decide⟩],
    [.truth true, .whole (-7) (by decide)]]
  table_identifier := Name.isIdentifier_of_checked rfl rfl
  columns_identifier name member := by
    rcases List.mem_pair.mp member with rfl | rfl
    · exact Name.isIdentifier_of_checked rfl rfl
    · exact Name.isIdentifier_of_checked rfl rfl
  columns_ne_nil := List.cons_ne_nil _ _
  columns_nodup := by decide
  rows_ne_nil := List.cons_ne_nil _ _
  rows_width row member := by
    rcases List.mem_pair.mp member with rfl | rfl
    · rfl
    · rfl

/-- The other column of the same table alone. -/
def plainRecord : Insert.Record where
  table := "t".toList
  columns := ["b".toList]
  rows := [[.whole 1 (by decide)]]
  table_identifier := Name.isIdentifier_of_checked rfl rfl
  columns_identifier name member := by
    rw [List.mem_singleton.mp member]
    exact Name.isIdentifier_of_checked rfl rfl
  columns_ne_nil := List.cons_ne_nil _ _
  columns_nodup := by decide
  rows_ne_nil := List.cons_ne_nil _ _
  rows_width row member := by
    rw [List.mem_singleton.mp member]
    rfl

/-- The three rows of the two records are read back from their two lines. -/
theorem rows_of_awkward_records :
    Head.parser.KnowsInsertions ∧
      exists report, read Head.parser .standard
          ("INSERT INTO t (a, b) VALUES (NULL, 'it''s \\\\ (1); --'), (TRUE, -7);\n" ++
            "INSERT INTO t (b) VALUES (1);").toList none = .ok report ∧
        report.results.length = 2 ∧
        (forall result, result ∈ report.results -> result.status = .ok) ∧
        Keyed.get? "t".toList report.data = some
          [.keyed [("a".toList, .null), ("b".toList, .text "it's \\ (1); --".toList)],
           .keyed [("a".toList, .bool true), ("b".toList, .int (-7))],
           .keyed [("b".toList, .int 1)]] := by
  have written : Text.join ['\n'] ([awkwardRecord, plainRecord].map Insert.Record.line) =
      ("INSERT INTO t (a, b) VALUES (NULL, 'it''s \\\\ (1); --'), (TRUE, -7);\n" ++
        "INSERT INTO t (b) VALUES (1);").toList := by
    decide
  obtain ⟨_, report, done, count, fine, data⟩ :=
    data_read_of_records Head.parser_knowsInsertions [awkwardRecord, plainRecord] none
  rw [written] at done
  exact ⟨Head.parser_knowsInsertions, report, done, count, fine, data "t".toList⟩

end Script
end SchemaAtlas
