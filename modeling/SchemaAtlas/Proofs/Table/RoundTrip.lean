import Mathlib.Tactic.Choose
import SchemaAtlas.Proofs.Insert.Rows
import SchemaAtlas.Proofs.Table.Body

namespace SchemaAtlas

/-!
Definitions that are written for MySQL and read again.

A table is portable when its names, numbers and texts need no escapes.  Its definition is read as a
table of the same name with the same columns and the same key, whose types are spelled as MySQL
spells them.  Spelled types stand for themselves, so the table that was read is written as the same
definition.
-/

namespace Column

/-- The column with its type in another spelling. -/
def respelled (c : Column) (w : Dialect.Spelling) : Column :=
  { c with baseType := w.base, length := w.length, enumValues := w.readValues }

/-- What a column keeps when it is written and read again. -/
structure Kept (c read : Column) : Prop where
  name : read.name = c.name
  nullable : read.nullable = c.nullable
  primaryKey : read.primaryKey = c.primaryKey
  autoIncrement : read.autoIncrement = c.autoIncrement
  comment : read.comment = c.comment
  values : TypeText.isValueList c.baseType = true ->
    forall values, c.enumValues = some values -> read.enumValues = some values

end Column

namespace Entity

/-- A table that MySQL can write and that can be read again. -/
structure Portable (e : Entity) : Prop where
  coherent : e.Coherent
  filled : e.columns ≠ []
  named : Name.IsIdentifier e.name
  columns : forall c, c ∈ e.columns -> c.Portable

end Entity

theorem Entity.Portable.identifier_keys {e : Entity} (portable : e.Portable) :
    forall name, name ∈ e.keyColumns.map Column.name -> Name.IsIdentifier name := by
  intro name member
  rcases List.mem_map.mp member with ⟨c, listed, rfl⟩
  exact (portable.columns c (List.mem_filter.mp listed).1).named

namespace PrimaryKey

theorem ofNames_names {key : PrimaryKey} (proper : key.Proper) : ofNames key.names = key := by
  cases key with
  | none => rfl
  | single name => rfl
  | composite names =>
      rcases names with _ | ⟨first, _ | ⟨second, rest⟩⟩
      · simp [Proper] at proper
      · simp [Proper] at proper
      · rfl

end PrimaryKey

namespace Table
namespace Draft

/-- Where no more columns are marked than may count, all marks are kept. -/
theorem countFirst_eq_map {allowed : Bool} {entries : List (Column × Bool)}
    (few : (entries.filter Prod.snd).length ≤ if allowed then 1 else 0) :
    countFirst allowed entries = entries.map fun entry =>
      { entry.1 with autoIncrement := entry.2 } := by
  induction entries generalizing allowed with
  | nil => rfl
  | cons entry rest ih =>
      rcases entry with ⟨c, marked⟩
      rw [countFirst, List.map_cons]
      cases marked with
      | false =>
          rw [ih (by simpa using few)]
          simp
      | true =>
          cases allowed with
          | false => simp at few
          | true =>
              rw [ih (by simpa using few)]
              simp

end Draft

/-! Columns in another spelling. -/

/-- A type that is read from its spelling is spelled the same way. -/
theorem typeOf_respelled (c : Column) {w : Dialect.Spelling} (stands : w.Stands) :
    Dialect.typeOf .mysql (c.respelled w) = w.text := by
  have upper := (Dialect.ofText_of_known w.base stands.known).2.1
  have shown : (if TypeText.isValueList w.base then w.readValues else none) = w.values := by
    have legible := stands.legible
    cases w with
    | bare base => exact if_neg (Bool.not_eq_true _ ▸ legible)
    | sized base runs => exact if_neg (Bool.not_eq_true _ ▸ legible.1)
    | listed base values => exact if_pos legible.1
  have type : Dialect.typeOf .mysql (c.respelled w) = Dialect.columnType .mysql w.base w.length
      (if TypeText.isValueList w.base then w.readValues else none) := by
    simp only [Dialect.typeOf, Column.respelled, upper]
    rfl
  rw [type, shown, stands.again]

/-- Nothing but the type of a column is written in another way. -/
theorem column_respelled {c : Column} (unset : c.default = none) {w : Dialect.Spelling}
    (typed : Dialect.typeOf .mysql c = Dialect.typeOf .mysql (c.respelled w)) (apart : Bool) :
    Dialect.column .mysql (c.respelled w) apart = Dialect.column .mysql c apart := by
  have unsetToo : (c.respelled w).default = none := unset
  have other : (Dialect.mysql == .postgresql) = false := rfl
  simp only [Dialect.column, other, Bool.and_false, Bool.false_eq_true, if_false, Dialect.defaultOf,
    unset, unsetToo, typed]
  rfl

/-! Portable tables. -/

section Portable

variable {e : Entity} (portable : e.Portable) {w : Column -> Dialect.Spelling}
  (stands : forall c, c ∈ e.columns -> (w c).Stands)

/-- The clauses of a table: its columns, and its key where that has several columns. -/
def clausesOf : List Clause :=
  (e.columns.attach.map fun c =>
    Clause.column (portable.columns c.1 c.2) (portable.coherent.required c.1 c.2)
    (stands c.1 c.2) e.hasCompositeKey) ++
  if e.hasCompositeKey then [Clause.key (portable.identifier_keys)] else []

theorem element_clausesOf : (clausesOf portable stands).map Clause.element =
    (e.columns.map fun c => reread (w c) c e.hasCompositeKey).map Element.column ++
      if e.hasCompositeKey then [.primaryKey (e.keyColumns.map Column.name)] else [] := by
  rw [clausesOf, List.map_append, List.map_map, List.map_map]
  congr 1
  · exact List.attach_map_val (f := fun c => Element.column (reread (w c) c e.hasCompositeKey))
  · split <;> rfl

theorem text_clausesOf : (clausesOf portable stands).map Clause.text =
    (e.columns.map fun c => Text.join
      [' '] ((columnItems (w c) c e.hasCompositeKey).map Prod.fst)) ++
      if e.hasCompositeKey then
        ["PRIMARY KEY(".toList
          ++ Text.join ", ".toList (e.keyColumns.map fun c => Dialect.quoteColumn .mysql c.name) ++
            [')']]
      else [] := by
  have key : keyText (e.keyColumns.map Column.name) = "PRIMARY KEY(".toList
      ++ Text.join ", ".toList (e.keyColumns.map fun c => Dialect.quoteColumn .mysql c.name) ++
        [')'] := by
    unfold keyText
    rw [List.map_map, Function.comp_def]
  rw [clausesOf, List.map_append, List.map_map, ← key]
  congr 1
  · exact List.attach_map_val (f :=
      fun c => Text.join [' '] ((columnItems (w c) c e.hasCompositeKey).map Prod.fst))
  · split <;> rfl

/-- A table is written clause by clause. -/
theorem table_eq (typed : forall c, c ∈ e.columns -> Dialect.typeOf .mysql c = (w c).text) :
    Dialect.table .mysql e = .ok (definitionText e.name (clausesOf portable stands)) := by
  have columns := Insert.mapM_ok (f := fun c => Dialect.column .mysql c e.hasCompositeKey) (g := id)
    fun c member => column_eq (portable.columns c member) (typed c member) e.hasCompositeKey
  have opening : " (\n".toList = ' ' :: "(\n".toList := by decide
  rw [List.map_id] at columns
  unfold Dialect.table definitionText bodyText
  simp only [columns, bind, Except.bind, pure, Except.pure, ← text_clausesOf portable stands]
  simp only [List.map_map, Function.comp_def, opening, List.append_assoc, List.cons_append]

/-- The draft of the definition: the columns that it declares, and the names of a
key of several columns. -/
theorem ofElements_clausesOf : Draft.ofElements ((clausesOf portable stands).map Clause.element) =
    { Draft.empty with
      columns := e.columns.map fun c => ((reread (w c) c e.hasCompositeKey).column, c.autoIncrement)
      keyNames := if e.hasCompositeKey then e.keyColumns.map Column.name else []
      constraints := if e.hasCompositeKey then 1 else 0 } := by
  have distinct : (Draft.empty.columnKeys ++
      (e.columns.map fun c => reread (w c) c e.hasCompositeKey).map fun r =>
        r.column.key).Nodup := by
    rw [List.map_map]
    exact portable.coherent.distinct
  have bare : (e.columns.map fun c => reread (w c) c e.hasCompositeKey).flatMap
      ColumnReading.references = [] := by
    rw [List.flatMap_map]
    exact List.flatMap_eq_nil_iff.mpr fun _ _ => rfl
  rw [element_clausesOf, Draft.ofElements, List.foldl_append, Draft.foldl_add_columns distinct,
    bare, List.map_map]
  cases e.hasCompositeKey with
  | false => rfl
  | true => rfl

/-- Keys that are declared apart mark the same columns as before. -/
theorem keyed_clausesOf :
    (Draft.ofElements ((clausesOf portable stands).map Clause.element)).keyed =
    e.columns.map fun c => ({ c.respelled (w c) with autoIncrement := false },
      c.autoIncrement) := by
  rw [ofElements_clausesOf, Draft.keyed, List.map_map]
  apply List.map_congr_left
  intro c member
  have named : ((e.keyColumns.map Column.name).any fun name => Text.lower name == c.key) =
      c.primaryKey :=
    any_filter_names portable.coherent.distinct Column.primaryKey member
  have required := portable.coherent.required c member
  have key : (reread (w c) c e.hasCompositeKey).column.key = c.key := rfl
  cases apart : e.hasCompositeKey with
  | false => simp [reread, Column.respelled]
  | true =>
      rw [apart] at key
      simp only [Function.comp_apply, if_true, key, named]
      cases isKey : c.primaryKey with
      | true => simp [reread, Column.respelled, Column.asKey, isKey, required isKey]
      | false => simp [reread, Column.respelled, isKey]

/-- The table of the definition. -/
theorem entity_clausesOf (index : Int) :
    (Draft.ofElements ((clausesOf portable stands).map Clause.element)).entity
      ⟨none, e.name⟩ index =
      { Entity.empty e.name index with
        columns := e.columns.map fun c => c.respelled (w c)
        primaryKey := e.primaryKey } := by
  have coherent := portable.coherent
  have keys :
      ((Draft.ofElements ((clausesOf portable stands).map Clause.element)).keyed.map
        Prod.fst).filter
      Column.primaryKey = e.keyColumns.map fun c =>
          { c.respelled (w c) with autoIncrement := false } := by
    rw [keyed_clausesOf, List.map_map, List.filter_map]
    rfl
  have few :
      ((e.columns.map fun c => ({ c.respelled (w c) with autoIncrement := false },
        c.autoIncrement)).filter
      Prod.snd).length ≤ if decide (e.keyColumns.length ≤ 1) then 1 else 0 := by
    rw [List.filter_map, List.length_map]
    change (e.columns.filter Column.autoIncrement).length ≤ _
    by_cases single : e.keyColumns.length ≤ 1
    · simpa [single] using coherent.counting
    · have nobody : e.columns.filter Column.autoIncrement = [] :=
        List.filter_eq_nil_iff.mpr fun c member => by simp [coherent.composite (by omega) c member]
      simpa [single] using nobody
  have foreign : (Draft.ofElements ((clausesOf portable stands).map Clause.element)).foreignKeys =
      [] := by
    rw [ofElements_clausesOf]
    rfl
  have named : (e.keyColumns.map fun c => { c.respelled (w c) with autoIncrement := false }).map
      Column.name =
      e.primaryKey.names := by
    rw [List.map_map, coherent.named]
    rfl
  unfold Draft.entity
  simp only [keys, named, List.length_map]
  rw [keyed_clausesOf, Draft.countFirst_eq_map few, List.map_map,
    PrimaryKey.ofNames_names coherent.proper, foreign]
  rfl

include portable stands in
/-- The table of the definition is written as the table itself. -/
theorem table_respelled (typed : forall c, c ∈ e.columns -> Dialect.typeOf .mysql c = (w c).text)
    {read : Entity} (named : read.name = e.name)
    (columns : read.columns = e.columns.map fun c => c.respelled (w c)) :
    Dialect.table .mysql read = Dialect.table .mysql e := by
  have keys : read.keyColumns = e.keyColumns.map fun c => c.respelled (w c) := by
    rw [Entity.keyColumns, columns, List.filter_map]
    rfl
  have apart : read.hasCompositeKey = e.hasCompositeKey := by
    rw [Entity.hasCompositeKey, keys, List.length_map]
    rfl
  have written : forall c, c ∈ e.columns ->
      Dialect.column .mysql (c.respelled (w c)) e.hasCompositeKey =
      .ok (Text.join [' '] ((columnItems (w c) c e.hasCompositeKey).map Prod.fst)) := by
    intro c member
    have same := (typed c member).trans (typeOf_respelled c (stands c member)).symm
    rw [column_respelled (portable.columns c member).unset same]
    exact column_eq (portable.columns c member) (typed c member) e.hasCompositeKey
  have readColumns := Insert.mapM_ok
    (f := fun c => Dialect.column .mysql c e.hasCompositeKey) written
  have ownColumns := Insert.mapM_ok
    (f := fun c => Dialect.column .mysql c e.hasCompositeKey) (g := id)
    fun c member => column_eq (portable.columns c member) (typed c member) e.hasCompositeKey
  rw [List.map_id] at ownColumns
  unfold Dialect.table
  simp only [apart, columns, readColumns, ownColumns, keys, named, List.map_map]
  rfl

end Portable

/-- The definition that MySQL writes for a portable table, where it names no type of several
words, is read as a table of the same name, the same key and the same columns, and that table is
written as the same definition. -/
theorem written_definition_reads_back (e : Entity) (portable : e.Portable) (index : Int) :
    exists ddl, Dialect.table .mysql e = .ok ddl ∧ (unifyTypes ddl = ddl ->
      exists read, ofText ddl index = .ok read ∧ read.name = e.name ∧
        read.columnNames = e.columnNames ∧
        List.Forall₂ Column.Kept e.columns read.columns ∧ read.primaryKey = e.primaryKey ∧
        Dialect.table .mysql read = .ok ddl) := by
  -- one spelling for each column, so that writing, reading and writing again speak of the same
  -- texts
  have spelled : forall c, c ∈ e.columns -> exists w : Dialect.Spelling, w.Stands ∧
      Dialect.typeOf .mysql c = w.text ∧ (TypeText.isValueList c.baseType = true ->
        forall values, c.enumValues = some values -> w.values = some values) := by
    intro c member
    have column := portable.columns c member
    exact Dialect.exists_spelling column.known column.sized column.unsized column.valued
  choose! w stands typed valued using spelled
  have written := table_eq portable stands typed
  refine ⟨_, written, ?_⟩
  intro unified
  have declares : (Draft.ofElements ((clausesOf portable stands).map Clause.element)).columns ≠
      [] := by
    rw [ofElements_clausesOf]
    simpa using portable.filled
  refine ⟨_, ofText_definitionText portable.named unified declares index, ?_⟩
  rw [entity_clausesOf]
  refine ⟨rfl, ?_, ?_, rfl, ?_⟩
  · exact List.map_map
  · rw [List.forall₂_map_right_iff, List.forall₂_same]
    intro c member
    refine ⟨rfl, rfl, rfl, rfl, rfl, ?_⟩
    intro isList values given
    exact Dialect.Spelling.readValues_of_values (valued c member isList values given)
  · rw [← written]
    exact table_respelled portable stands typed rfl rfl

/-- A ledger with a counting key, a price and a state. -/
def ledger : Entity :=
  { Entity.empty "ledger" 0 with
    columns :=
      [⟨"id", "SERIAL", none, false, none, true, true, none, none⟩,
       ⟨"price", "MONEY", some "10,2", true, none, false, false, none, some "net, it's (10%)"⟩,
       ⟨"state", "ENUM", none, false, none, false, false, some ["open", "can't", "a,b)"], none⟩]
    primaryKey := .single "id" }

def ledgerText : Text :=
  "CREATE TABLE IF NOT EXISTS \x60ledger\x60 (\n".toList
    ++ "\t\x60id\x60 BIGINT NOT NULL PRIMARY KEY AUTO_INCREMENT,\n".toList
    ++ "\t\x60price\x60 DECIMAL(10,2) NULL COMMENT 'net, it''s (10%)',\n".toList
    ++ "\t\x60state\x60 ENUM('open','can''t','a,b)') NOT NULL\n);".toList

theorem portable_ledger : ledger.Portable := by
  have number : forall t : Text, t ≠ [] -> t.all Text.isDecimalDigit = true -> Text.IsDigits t :=
    fun t nonempty all => ⟨nonempty, List.all_eq_true.mp all⟩
  refine ⟨⟨by decide +kernel, ?_, by decide +kernel, ?_, by decide +kernel, trivial⟩,
    by simp [ledger], Name.isIdentifier_of_checked (by decide +kernel) (by decide +kernel), ?_⟩
  · unfold Column.KeyIsRequired
    decide +kernel
  · decide +kernel
  · refine List.forall_mem_cons.mpr
      ⟨?_, List.forall_mem_cons.mpr ⟨?_, List.forall_mem_singleton.mpr ?_⟩⟩
    · exact ⟨Name.isIdentifier_of_checked (by decide +kernel)
        (by decide +kernel), by decide +kernel, nofun, fun _ => rfl, rfl, nofun, nofun⟩
    · refine ⟨Name.isIdentifier_of_checked (by decide +kernel)
        (by decide +kernel), by decide +kernel, ?_, ?_, rfl, ?_, ?_⟩
      · intro given found
        rw [← Option.some.inj found]
        exact Or.inr ⟨"10".toList, "2".toList, number _ (by decide) (by decide),
          number _ (by decide) (by decide), rfl⟩
      · intro isList
        exact absurd isList (by decide +kernel)
      · intro t found
        rw [← Option.some.inj found]
        refine ⟨by decide, ⟨?_, ?_⟩, by decide⟩
        · intro c first
          obtain rfl : 'n' = c := Option.some.inj first
          decide
        · intro c last
          obtain rfl : ')' = c := Option.some.inj last
          decide
      · nofun
    · refine ⟨Name.isIdentifier_of_checked (by decide +kernel)
        (by decide +kernel), by decide +kernel, nofun, fun _ => rfl, rfl, nofun, ?_⟩
      intro _ values found
      rw [← Option.some.inj found]
      decide

theorem ledger_definition_reads_back :
    ledger.Portable ∧ Dialect.table .mysql ledger = .ok ledgerText ∧
    unifyTypes ledgerText = ledgerText ∧ exists read, ofText ledgerText 0 = .ok read ∧
      read.name = ledger.name ∧
      read.columnNames = ledger.columnNames ∧ List.Forall₂ Column.Kept ledger.columns read.columns ∧
      read.primaryKey = ledger.primaryKey ∧ Dialect.table .mysql read = .ok ledgerText := by
  have written : Dialect.table .mysql ledger = .ok ledgerText := by decide +kernel
  have unified : unifyTypes ledgerText = ledgerText := by decide +kernel
  rcases written_definition_reads_back ledger portable_ledger 0 with ⟨ddl, same, back⟩
  obtain rfl : ledgerText = ddl := Except.ok.inj (written.symm.trans same)
  exact ⟨portable_ledger, written, unified, back unified⟩

end Table
end SchemaAtlas
