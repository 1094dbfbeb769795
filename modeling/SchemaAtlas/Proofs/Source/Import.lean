import SchemaAtlas.Proofs.Reference.Calculate
import SchemaAtlas.Proofs.Script.Data
import SchemaAtlas.Source.Database

namespace SchemaAtlas

/-!
Tables and rows of a database in the report on it.

Every table of a database becomes a table of the report, with all of its rows.  The data by table
goes by names, and names are turned into snake case before, where different names may become one.
Then the rows of the last table take the place of those before them.  So all rows are in the data
exactly where no two tables with rows come under one name.
-/

namespace Script

/-! Counting the rows of entries that are set over others. -/

theorem rowCount_append (first second : Keyed (List Row)) :
    rowCount (first ++ second) = rowCount first + rowCount second := by
  induction first with
  | nil => exact (Nat.zero_add _).symm
  | cons entry rest ih =>
      simp only [rowCount, List.cons_append, total_cons] at ih ⊢
      omega

theorem rowCount_update_le (data pairs : Keyed (List Row)) :
    rowCount (Keyed.update data pairs) ≤ rowCount data + rowCount pairs := by
  induction pairs generalizing data with
  | nil => exact Nat.le_refl _
  | cons pair rest ih =>
      have later := ih (Keyed.set pair.1 pair.2 data)
      have counted := rowCount_set pair.1 pair.2 data
      change rowCount (Keyed.update (Keyed.set pair.1 pair.2 data) rest) ≤ _
      simp only [rowCount, total_cons] at later counted ⊢
      omega

theorem Tidy.append {data : Keyed (List Row)} (tidy : Tidy data) {key : Text} {rows : List Row}
    (absent : key ∉ Keyed.names data) (filled : rows ≠ []) : Tidy (data ++ [(key, rows)]) := by
  rw [← Keyed.set_of_not_mem key rows absent]
  refine ⟨Keyed.nodup_names_set key rows tidy.distinct, ?_⟩
  intro other
  rw [Keyed.get?_set]
  by_cases same : key = other
  · simp [same, filled]
  · simpa only [if_neg same] using tidy.filled other

/-- No row is lost exactly where no name comes twice. -/
theorem rowCount_update_eq_iff {data pairs : Keyed (List Row)} (tidy : Tidy data)
    (filled : forall pair, pair ∈ pairs -> pair.2 ≠ []) :
    rowCount (Keyed.update data pairs) = rowCount data + rowCount pairs ↔
      (Keyed.names data ++ Keyed.names pairs).Nodup := by
  constructor
  · intro equal
    induction pairs generalizing data with
    | nil => simpa [Keyed.names] using tidy.distinct
    | cons pair rest ih =>
        rcases pair with ⟨key, rows⟩
        have nonempty : rows ≠ [] := filled (key, rows) List.mem_cons_self
        have absent : key ∉ Keyed.names data := by
          intro member
          rcases List.mem_map.mp member with ⟨⟨same, old⟩, listed, equalNames⟩
          have found : Keyed.get? key data = some old :=
            Keyed.get?_of_mem tidy.distinct (equalNames ▸ listed)
          have some : 0 < old.length := by
            apply List.length_pos_iff.mpr
            rintro rfl
            exact tidy.filled _ found
          have counted := rowCount_set key rows data
          have bounded := rowCount_update_le (Keyed.set key rows data) rest
          change rowCount (Keyed.update (Keyed.set key rows data) rest) = _ at equal
          rw [found, Option.getD_some] at counted
          simp only [rowCount, total_cons] at equal counted bounded
          omega
        have moved : rowCount (Keyed.update (data ++ [(key, rows)]) rest) =
            rowCount (data ++ [(key, rows)]) + rowCount rest := by
          change rowCount (Keyed.update (Keyed.set key rows data) rest) = _ at equal
          rw [Keyed.set_of_not_mem key rows absent] at equal
          rw [equal, rowCount_append, Nat.add_assoc]
          rfl
        have later := ih (tidy.append absent nonempty)
          (fun pair member => filled pair (List.mem_cons_of_mem _ member)) moved
        simpa [Keyed.names] using later
  · intro distinct
    rw [Keyed.update_of_nodup data pairs distinct, rowCount_append]

end Script

namespace StoredTable

def schemaName (t : StoredTable) : Text :=
  Name.snake t.name

def schemaRows (t : StoredTable) : List Row :=
  t.rows.map t.rowOf

theorem name_addColumn (e : Entity) (c : Column) : (e.addColumn c).1.name = e.name := by
  unfold Entity.addColumn
  split
  · rfl
  · rfl

theorem name_toEntity (t : StoredTable) (index : Nat) : (t.toEntity index).name = t.schemaName := by
  have kept : forall (columns : List StoredColumn) (e : Entity),
      (columns.foldl (fun e c => (e.addColumn (t.columnOf c)).1) e).name = e.name := by
    intro columns
    induction columns with
    | nil => exact fun _ => rfl
    | cons c rest ih =>
        intro e
        rw [List.foldl_cons, ih, name_addColumn]
  exact kept t.columns (Entity.empty (Name.snake t.name) index)

end StoredTable

namespace Database

open Script

/-- The names and the rows of the tables with data. -/
def filledTables (tables : List StoredTable) : Keyed (List Row) :=
  (tables.map fun t => (t.schemaName, t.schemaRows)).filter fun entry => !entry.2.isEmpty

theorem map_entities {β : Type} (f : Entity -> β) (g : StoredTable -> β)
    (blind : forall (t : StoredTable) (index : Nat), f (t.toEntity index) = g t) (d : Database) :
    d.entities.map f = d.tables.map g := by
  apply List.ext_getElem (by simp [entities])
  intro index inside _
  simp [entities, blind]

theorem dataOf_entities (d : Database) :
    dataOf d.entities = Keyed.ofPairs (filledTables d.tables) := by
  have pairs := map_entities (fun e => (e.name, e.rows)) (fun t => (t.schemaName, t.schemaRows))
    (fun t index => by rw [t.name_toEntity]; rfl) d
  rw [dataOf, filledTables, ← pairs, List.filter_map]
  rfl

theorem ne_nil_of_mem_filledTables (tables : List StoredTable) :
    forall entry, entry ∈ filledTables tables -> entry.2 ≠ [] := by
  intro entry member
  have filled := (List.mem_filter.mp member).2
  simpa using filled

theorem rowCount_filledTables (tables : List StoredTable) :
    rowCount (filledTables tables) = total (fun t => t.rows.length) tables := by
  induction tables with
  | nil => rfl
  | cons t rest ih =>
      have size : t.schemaRows.length = t.rows.length := List.length_map _
      rw [total_cons, ← ih, ← size, filledTables, List.map_cons, List.filter_cons]
      cases rows : t.schemaRows with
      | nil => simp [filledTables]
      | cons row others => simp [filledTables, rowCount, total_cons]

/-- What the report on a database keeps.  All tables are there, in order, with their rows.  In
the data by table, the last table with rows counts of those that come under one name.  So the
data lacks rows exactly where two tables with rows come under one name; and names are distinct
and the data holds the rows of every table exactly where no two tables come under one name. -/
theorem read_keeps_iff (options : DepthOptions) (tables : List StoredTable) (path : Text)
    (reverse : Option Bool) : exists report, read options ⟨tables, none⟩ path reverse = .ok report ∧
      report.entities.map Entity.name = tables.map StoredTable.schemaName ∧
      report.entities.map Entity.rows = tables.map StoredTable.schemaRows ∧
      (forall key, Keyed.get? key report.data =
        ((filledTables tables).filter fun entry => entry.1 == key).getLast?.map Prod.snd) ∧
      (rowCount report.data = total (fun t => t.rows.length) tables ↔
        (Keyed.names (filledTables tables)).Nodup) ∧
      ((report.entities.map Entity.name).Nodup ∧
          (forall e, e ∈ report.entities -> e.rows ≠ [] ->
            Keyed.get? e.name report.data = some e.rows) ∧
          rowCount report.data = total (fun t => t.rows.length) tables ↔
        (tables.map StoredTable.schemaName).Nodup) := by
  let d : Database := ⟨tables, none⟩
  let entities := Depth.calculate options.matcher.matcher (reverse.getD options.reverse) d.entities
  have views : entities.map (fun e => (e.name, e.rows)) = tables.map fun t =>
      (t.schemaName, t.schemaRows) :=
    (Depth.map_calculate _ (fun _ _ => rfl) _ _ _).trans
      (map_entities _ _ (fun t index => by rw [t.name_toEntity]; rfl) d)
  have names : entities.map Entity.name = tables.map StoredTable.schemaName := by
    have firsts := congrArg (List.map Prod.fst) views
    rwa [List.map_map, List.map_map] at firsts
  have rows : entities.map Entity.rows = tables.map StoredTable.schemaRows := by
    have seconds := congrArg (List.map Prod.snd) views
    rwa [List.map_map, List.map_map] at seconds
  have counted : rowCount (dataOf d.entities) = total (fun t => t.rows.length) tables ↔
      (Keyed.names (filledTables tables)).Nodup := by
    have tidy : Tidy [] := ⟨List.nodup_nil, by simp [Keyed.get?]⟩
    have compared := rowCount_update_eq_iff tidy (ne_nil_of_mem_filledTables tables)
    have none : rowCount [] = 0 := rfl
    rw [none, Nat.zero_add, rowCount_filledTables] at compared
    rw [dataOf_entities]
    exact compared
  refine ⟨_, rfl, names, rows, ?_, counted, ?_⟩
  · intro key
    change Keyed.get? key (dataOf d.entities) = _
    rw [dataOf_entities, Keyed.ofPairs, Keyed.get?_update]
    exact Option.or_none
  · constructor
    · rintro ⟨distinct, _⟩
      exact names ▸ distinct
    · intro distinct
      have distinctFilled : (Keyed.names (filledTables tables)).Nodup := by
        have sublist : (Keyed.names (filledTables tables)).Sublist
            (tables.map StoredTable.schemaName) := by
          have mapped := (List.filter_sublist (p := fun entry : Text × List Row => !entry.2.isEmpty)
            (l := tables.map fun t => (t.schemaName, t.schemaRows))).map Prod.fst
          rwa [List.map_map] at mapped
        exact distinct.sublist sublist
      refine ⟨names ▸ distinct, ?_, counted.mpr distinctFilled⟩
      intro e member nonempty
      change Keyed.get? e.name (dataOf d.entities) = _
      rw [dataOf_entities, Keyed.ofPairs_of_nodup _ distinctFilled]
      apply Keyed.get?_of_mem distinctFilled
      have viewed : (e.name, e.rows) ∈ tables.map fun t => (t.schemaName, t.schemaRows) :=
        views ▸ List.mem_map_of_mem member
      exact List.mem_filter.mpr ⟨viewed, by simpa using nonempty⟩

end Database
end SchemaAtlas
