import SchemaAtlas.Insert.Data
import SchemaAtlas.Proofs.Insert.Rows
import SchemaAtlas.Proofs.Keyed
import SchemaAtlas.Proofs.Name

namespace SchemaAtlas
namespace Insert

/-!
Written insertions.

A record says what an insertion holds: a table, columns, and rows of cells, one cell for each
column.  Its statement names the columns and lists the rows.  The reader of insertions finds in the
statement exactly the table, the columns and the cells of the record.
-/

/-- A statement that inserts the values into some columns of a table. -/
def statementText (table columns values : Text) : Text :=
  "INSERT INTO ".toList ++ (table ++ (" (".toList ++ (columns ++ (") VALUES ".toList ++ values))))

theorem unbroken_inParens {t : Text} (unbroken : Text.Unbroken t) : Text.Unbroken (inParens t) := by
  have opening : Text.Unbroken ['('] := ⟨by decide, by decide⟩
  have closing : Text.Unbroken [')'] := ⟨by decide, by decide⟩
  exact opening.append (unbroken.append closing)

theorem unbroken_statementText {table columns values : Text} (unbrokenTable : Text.Unbroken table)
    (unbrokenColumns : Text.Unbroken columns) (unbrokenValues : Text.Unbroken values) :
    Text.Unbroken (statementText table columns values) := by
  have first : Text.Unbroken "INSERT INTO ".toList := ⟨by decide, by decide⟩
  have second : Text.Unbroken " (".toList := ⟨by decide, by decide⟩
  have third : Text.Unbroken ") VALUES ".toList := ⟨by decide, by decide⟩
  exact first.append (unbrokenTable.append
    (second.append (unbrokenColumns.append (third.append unbrokenValues))))

theorem columnList_append {columns : Text} (closed : ')' ∉ columns) (rest : Text) :
    columnList ('(' :: (columns ++ ')' :: rest)) = [(columns, rest)] := by
  have inside : forall c, c ∈ columns -> (c != ')') = true := by
    intro c member
    exact bne_iff_ne.mpr fun equal => closed (equal ▸ member)
  have stop : (')' != ')') = false := by decide
  have taken : (columns ++ ')' :: rest).takeWhile (· != ')') = columns := by
    rw [List.takeWhile_append_of_pos inside, List.takeWhile_cons_of_neg (by simp), List.append_nil]
  have left : (columns ++ ')' :: rest).dropWhile (· != ')') = ')' :: rest := by
    rw [List.dropWhile_append_of_pos inside, List.dropWhile_cons_of_neg (by simp)]
  simp only [columnList, left, taken]

/-- Parts with a comma and a space between neighbours are the names of a column list,
each without its quotes. -/
theorem columnNames_join_parts {parts : List Text} (nonempty : parts ≠ [])
    (free : forall part, part ∈ parts -> ',' ∉ part)
    (filled : forall part, part ∈ parts -> Text.isBlankText part = false) :
    columnNames (Text.join ", ".toList parts) = parts.map Name.stripQuotes := by
  cases parts with
  | nil => exact absurd rfl nonempty
  | cons first rest =>
      have cut : Text.splitOn ',' (Text.join ", ".toList (first :: rest)) =
          first :: rest.map ([' '] ++ ·) :=
        Text.splitOn_join (by decide) free
      have kept : (first :: rest.map ([' '] ++ ·)).filter (fun name => !Text.isBlankText name) =
          first :: rest.map ([' '] ++ ·) := by
        apply List.filter_eq_self.mpr
        intro name listed
        rcases List.mem_cons.mp listed with rfl | inRest
        · rw [filled name List.mem_cons_self]
          rfl
        · rcases List.mem_map.mp inRest with ⟨inner, member, rfl⟩
          have solid := filled inner (List.mem_cons_of_mem _ member)
          simp only [Text.isBlankText] at solid
          simp [Text.isBlankText, solid]
      -- the space behind a comma is trimmed with the name
      have trimmed : Name.stripQuotes ∘ ([' '] ++ ·) = Name.stripQuotes := by
        funext t
        have same : Text.trim (' ' :: t) = Text.trim t := rfl
        simp only [Function.comp, Name.stripQuotes, List.singleton_append, same]
      rw [columnNames, cut, kept, List.map_cons, List.map_map, trimmed, List.map_cons]

/-- Identifiers with a comma and a space between neighbours are the names of a column list. -/
theorem columnNames_join {columns : List Text} (nonempty : columns ≠ [])
    (identifiers : forall name, name ∈ columns -> Name.IsIdentifier name) :
    columnNames (Text.join ", ".toList columns) = columns := by
  have filled : forall name, name ∈ columns -> Text.isBlankText name = false := by
    intro name listed
    rcases (identifiers name listed).begins with ⟨c, rest, rfl, _⟩
    have solid := Name.isBlank_of_identifierChar ((identifiers _ listed).chars c (by simp))
    simp [Text.isBlankText, solid]
  have bare : forall name, name ∈ columns -> Name.stripQuotes name = name :=
    fun name listed => (identifiers name listed).stripQuotes_blank_append [] (by simp)
  rw [columnNames_join_parts nonempty
    (fun name listed => (identifiers name listed).not_mem (by decide)) filled]
  exact (List.map_congr_left bare).trans (List.map_id columns)

/-- No parenthesis closes the list of columns inside of it. -/
theorem not_mem_join_columns {columns : List Text}
    (identifiers : forall name, name ∈ columns -> Name.IsIdentifier name) :
    ')' ∉ Text.join ", ".toList columns := by
  intro member
  rcases Text.mem_join member with inSeparator | ⟨name, listed, inside⟩
  · exact absurd inSeparator (by decide)
  · exact (identifiers name listed).not_mem (by decide) inside

/-- A list of values begins with its first parenthesis. -/
theorem head_join_inParens (texts : List Text) (nonempty : texts ≠ []) (rest : Text) :
    forall c, (Text.join ", ".toList (texts.map inParens) ++ rest).head? = some c ->
      Text.isBlank c = false := by
  cases texts with
  | nil => exact absurd rfl nonempty
  | cons first others =>
      cases others with
      | nil => exact Text.fails_at_head '(' _ (by decide)
      | cons second others =>
          rw [List.map_cons, List.map_cons, Text.join_cons_cons]
          exact Text.fails_at_head '(' _ (by decide)

/-- The form of an insertion finds the three parts of a written statement whose
table is named in any way. -/
theorem spelling?_of_named {table columns values : Text}
    (begins : forall rest : Text,
      forall c, (table ++ rest).head? = some c -> Text.isBlank c = false)
    (named : forall rest : Text,
      Phrase.Prefers Name.spelling (table ++ ' ' :: '(' :: rest) table (' ' :: '(' :: rest))
    (closed : ')' ∉ columns) (bare : forall c, values.head? = some c -> Text.isBlank c = false) :
    spelling? (statementText table columns values) = some ⟨table, some columns, values⟩ := by
  let behindColumns : Text := ") VALUES ".toList ++ values
  let behindTable : Text := " (".toList ++ (columns ++ behindColumns)
  have insertWord : Phrase.Prefers (Phrase.keyword "insert".toList)
      (statementText table columns values) ()
      ("INTO ".toList ++ (table ++ behindTable)) :=
    Phrase.prefers_of_singleton
      (Phrase.keyword_append "INSERT".toList (by decide) (Text.fails_at_head 'I' _ (by decide)))
  have ignoreAbsent : Phrase.keyword "ignore".toList
    ("INTO ".toList ++ (table ++ behindTable)) = [] := rfl
  have intoWord : Phrase.Prefers (Phrase.keyword "into".toList)
      ("INTO ".toList ++ (table ++ behindTable)) ()
      (table ++ behindTable) :=
    Phrase.prefers_of_singleton
      (Phrase.keyword_append "INTO".toList (by decide) (begins _))
  have tableName : Phrase.Prefers Name.spelling (table ++ behindTable) table behindTable :=
    named _
  have space : Phrase.Prefers Phrase.blanks behindTable () ('(' :: (columns ++ behindColumns)) :=
    Phrase.prefers_blanks_cons (by decide) (Text.fails_at_head '(' _ (by decide))
  have columnNames : Phrase.Prefers (Phrase.optionally columnList)
      ('(' :: (columns ++ behindColumns))
      (some columns) (" VALUES ".toList ++ values) :=
    Phrase.prefers_optionally (Phrase.prefers_of_singleton (columnList_append closed _))
  have spaceBefore : Phrase.Prefers Phrase.blanks (" VALUES ".toList ++ values) ()
      ("VALUES ".toList ++ values) :=
    Phrase.prefers_blanks_cons (by decide) (Text.fails_at_head 'V' _ (by decide))
  have valuesWord : Phrase.Prefers (Phrase.letters "values".toList) ("VALUES ".toList ++ values) ()
      (' ' :: values) :=
    Phrase.prefers_of_singleton (Phrase.letters_append "VALUES".toList (by decide) _)
  have spaceBehind : Phrase.Prefers Phrase.blanks (' ' :: values) () values :=
    Phrase.prefers_blanks_cons (by decide) bare
  have all : Phrase.Prefers remainder values values [] := rfl
  have whole : Phrase.Prefers form (statementText table columns values)
      ⟨table, some columns, values⟩ [] :=
    Phrase.prefers_bind insertWord
      (Phrase.prefers_bind (Phrase.prefers_optional_absent ignoreAbsent)
        (Phrase.prefers_bind intoWord
          (Phrase.prefers_bind tableName
            (Phrase.prefers_bind space
              (Phrase.prefers_bind columnNames
                (Phrase.prefers_bind spaceBefore
                  (Phrase.prefers_bind valuesWord
                    (Phrase.prefers_bind spaceBehind
                      (Phrase.prefers_bind all (Phrase.prefers_give _ []))))))))))
  rw [spelling?, Phrase.search?_of_prefers whole]
  rfl

theorem spelling?_statementText {table columns values : Text} (identifier : Name.IsIdentifier table)
    (closed : ')' ∉ columns) (bare : forall c, values.head? = some c -> Text.isBlank c = false) :
    spelling? (statementText table columns values) = some ⟨table, some columns, values⟩ :=
  spelling?_of_named identifier.head_not_blank
    (fun _ => identifier.prefers_spelling (Text.fails_at_head ' ' _ (by decide)) rfl) closed bare

/-! Records. -/

/-- What an insertion holds: rows of cells for some columns of a table.  All names are
identifiers, no column is named twice, and every row has one cell for each column. -/
structure Record where
  table : Text
  columns : List Text
  rows : List (List Cell)
  table_identifier : Name.IsIdentifier table
  columns_identifier : forall name, name ∈ columns -> Name.IsIdentifier name
  columns_ne_nil : columns ≠ []
  columns_nodup : columns.Nodup
  rows_ne_nil : rows ≠ []
  rows_width : forall row, row ∈ rows -> row.length = columns.length

namespace Record

def columnsText (r : Record) : Text :=
  Text.join ", ".toList r.columns

/-- The rows as the statement lists them. -/
def valuesText (r : Record) : Text :=
  Text.join ", ".toList ((r.rows.map writtenRow).map inParens)

def statement (r : Record) : Text :=
  statementText r.table r.columnsText r.valuesText

/-- The data of the record: every cell under the column that stands at its place. -/
def data (r : Record) : List Row :=
  r.rows.map fun row => .keyed (r.columns.zip (row.map Cell.value))

def insert (r : Record) : Insert :=
  ⟨r.table, r.columns, r.rows.map fun row => row.map Cell.value, none⟩

/-- The reader of insertions finds the record in its statement. -/
theorem ofText_statement (r : Record) : Insert.ofText r.statement = .ok (some r.insert) := by
  have bare : forall c, r.valuesText.head? = some c -> Text.isBlank c = false := by
    have begins := head_join_inParens (r.rows.map writtenRow) (by simp [r.rows_ne_nil]) []
    rwa [List.append_nil] at begins
  have spelled := spelling?_statementText r.table_identifier
    (not_mem_join_columns r.columns_identifier) bare
  have filled : r.table.isEmpty = false := List.isEmpty_eq_false_iff.mpr r.table_identifier.ne_nil
  have texts : rowTexts r.valuesText = r.rows.map writtenRow := by
    apply rowTexts_join_inParens sealed_comma_space
    intro t listed
    rcases List.mem_map.mp listed with ⟨row, _, rfl⟩
    exact writtenRow_sealed row
  have read : (r.rows.map writtenRow).mapM cells = .ok (r.rows.map fun row => row.map Cell.value) :=
    mapM_ok fun row _ => cells_writtenRow row
  have named : columnNames (Text.join ", ".toList r.columns) = r.columns :=
    columnNames_join r.columns_ne_nil r.columns_identifier
  simp only [Insert.ofText, statement, columnsText, spelled,
    r.table_identifier.qualifiedName_eq, filled, Bool.false_eq_true, if_false, texts, read,
      Option.getD_some, named]
  rfl

end Record
end Insert

namespace Row

theorem align_eq_zip {names : List Text} {cells : List Scalar}
    (width : cells.length = names.length) : align names cells = names.zip cells := by
  induction names generalizing cells with
  | nil => rfl
  | cons name names ih =>
      cases cells with
      | nil => cases width
      | cons cell cells =>
          rw [align, ih (Nat.succ.inj width)]
          rfl

end Row

namespace Insert
namespace Record

/-- Under distinct columns of the same number as its cells, a row is the list of their pairs. -/
theorem rows_insert (r : Record) : r.insert.rows = r.data := by
  unfold Insert.rows rowsUnder insert data
  rw [List.map_map]
  apply List.map_congr_left
  intro row listed
  have width : (row.map Cell.value).length = r.columns.length := by
    rw [List.length_map, r.rows_width row listed]
  have distinct : (Keyed.names (r.columns.zip (row.map Cell.value))).Nodup := by
    have names : Keyed.names (r.columns.zip (row.map Cell.value)) = r.columns :=
      List.map_fst_zip (Nat.le_of_eq width.symm)
    rw [names]
    exact r.columns_nodup
  change Row.keyed (Keyed.ofPairs (Row.align r.columns (row.map Cell.value))) = _
  rw [Row.align_eq_zip width, Keyed.ofPairs_of_nodup _ distinct]

theorem unbroken_comma_space : Text.Unbroken ", ".toList :=
  ⟨by decide, by decide⟩

theorem valuesText_unbroken (r : Record) : Text.Unbroken r.valuesText := by
  apply Text.Unbroken.join unbroken_comma_space
  intro part listed
  rcases List.mem_map.mp listed with ⟨t, texts, rfl⟩
  rcases List.mem_map.mp texts with ⟨row, _, rfl⟩
  apply unbroken_inParens
  apply Text.Unbroken.join unbroken_comma_space
  intro part listed
  rcases List.mem_map.mp listed with ⟨cell, _, rfl⟩
  exact cell.written_unbroken

/-- The statement of a record stays on one line. -/
theorem statement_unbroken (r : Record) : Text.Unbroken r.statement := by
  have columns : Text.Unbroken r.columnsText :=
    Text.Unbroken.join unbroken_comma_space fun name listed =>
      (r.columns_identifier name listed).unbroken
  exact unbroken_statementText r.table_identifier.unbroken columns r.valuesText_unbroken

end Record
end Insert
end SchemaAtlas
