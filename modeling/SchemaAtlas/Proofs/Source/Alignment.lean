import Mathlib.Data.List.Induction
import SchemaAtlas.Proofs.Case
import SchemaAtlas.Proofs.Keyed
import SchemaAtlas.Proofs.Name.Snake
import SchemaAtlas.Proofs.Source.Import
import SchemaAtlas.Proofs.Table.Coherent

namespace SchemaAtlas

/-!
Rows of a stored table beside its columns.

Names of columns are turned into snake case on two ways, and different names may become one.  The
table then keeps the column that was declared first, but a row keeps the cell that stands last.  So
the cells of a row stand under their own columns exactly where no such name comes twice.
-/

namespace Name

/-- A name in snake case has no capital letter. -/
theorem lower_snake (name : Text) : Text.lower (snake name) = snake name := by
  apply Text.lower_of_forall
  intro c member
  rcases cases_of_mem_snake member with snakeChar | rfl
  · exact ⟨ascii_of_isSnakeChar snakeChar, (stays_of_isSnakeChar snakeChar).2⟩
  · decide

end Name

namespace StoredTable

/-! Columns that the table of a schema keeps. -/

/-- The names that declarations come to have in a schema. -/
def schemaNames (declared : List StoredColumn) : List Text :=
  declared.map fun c => Name.snake c.name

/-- The declarations, with their places, whose names no earlier declaration comes to have. -/
def kept (declared : List StoredColumn) : List (StoredColumn × Nat) :=
  declared.zipIdx.filter fun entry =>
    !((schemaNames declared).take entry.2).contains (Name.snake entry.1.name)

theorem mem_kept {declared : List StoredColumn} {c : StoredColumn} {k : Nat} :
    (c, k) ∈ kept declared ↔ declared[k]? = some c ∧
      Name.snake c.name ∉ (schemaNames declared).take k := by
  simp [kept, List.mk_mem_zipIdx_iff_getElem?]

theorem getElem?_schemaNames {declared : List StoredColumn} {c : StoredColumn} {k : Nat}
    (there : declared[k]? = some c) :
    (schemaNames declared)[k]? = some (Name.snake c.name) := by
  rw [schemaNames, List.getElem?_map, there]
  rfl

/-- Every name is that of a declaration that is kept. -/
theorem exists_kept {declared : List StoredColumn} {name : Text} {k : Nat}
    (there : (schemaNames declared)[k]? = some name) :
    exists c i, (c, i) ∈ kept declared ∧ i ≤ k ∧ Name.snake c.name = name := by
  rcases Keyed.exists_first there with ⟨i, before, found, isFirst⟩
  rw [schemaNames, List.getElem?_map] at found
  rcases Option.map_eq_some_iff.mp found with ⟨c, declaredThere, rfl⟩
  exact ⟨c, i, mem_kept.mpr ⟨declaredThere, isFirst⟩, before, rfl⟩

theorem mem_names_kept {declared : List StoredColumn} {name : Text} :
    name ∈ (kept declared).map (fun entry => Name.snake entry.1.name) ↔
      name ∈ schemaNames declared := by
  constructor
  · intro member
    rcases List.mem_map.mp member with ⟨⟨c, k⟩, inKept, rfl⟩
    exact List.mem_of_getElem? (getElem?_schemaNames (mem_kept.mp inKept).1)
  · intro member
    rcases List.mem_iff_getElem?.mp member with ⟨k, there⟩
    rcases exists_kept there with ⟨c, i, inKept, _, rfl⟩
    exact List.mem_map_of_mem (f := fun entry => Name.snake entry.1.name) inKept

/-- A further declaration is kept unless its name is there already. -/
theorem kept_append_singleton (front : List StoredColumn) (c : StoredColumn) :
    kept (front ++ [c]) =
      if Name.snake c.name ∈ schemaNames front then kept front
        else kept front ++ [(c, front.length)] := by
  have size : (schemaNames front).length = front.length := List.length_map _
  have before : (front.zipIdx.filter fun entry =>
      !((schemaNames (front ++ [c])).take entry.2).contains (Name.snake entry.1.name)) =
        kept front := by
    apply List.filter_congr
    rintro ⟨d, k⟩ member
    have inside : k ≤ (schemaNames front).length := by
      have there := List.mk_mem_zipIdx_iff_getElem?.mp member
      have bound := (List.getElem?_eq_some_iff.mp there).1
      omega
    rw [schemaNames, List.map_append]
    exact congrArg (fun names => !List.contains names _) (List.take_append_of_le_length inside)
  have whole : (schemaNames (front ++ [c])).take front.length = schemaNames front := by
    rw [schemaNames, List.map_append]
    exact List.take_left' size
  rw [kept, List.zipIdx_append, List.filter_append, before, List.zipIdx_singleton, Nat.zero_add,
    List.filter_singleton, whole]
  by_cases there : Name.snake c.name ∈ schemaNames front
  · simp [there]
  · simp [there]

theorem key_columnOf (t : StoredTable) (c : StoredColumn) :
    (t.columnOf c).key = Name.snake c.name :=
  Name.lower_snake c.name

/-- One more declaration is taken unless its name is there already. -/
theorem columns_addColumn (t : StoredTable) (e : Entity) (c : StoredColumn) :
    (e.addColumn (t.columnOf c)).1.columns =
      if Name.snake c.name ∈ e.columns.map Column.key then e.columns
        else e.columns ++ [t.columnOf c] := by
  have key : Text.lower (t.columnOf c).name = Name.snake c.name := t.key_columnOf c
  cases found : e.column? (t.columnOf c).name with
  | some old =>
      have there : Name.snake c.name ∈ e.columns.map Column.key := by
        have same := List.find?_some found
        exact List.mem_map.mpr ⟨old, List.mem_of_find?_eq_some found,
          (beq_iff_eq.mp same).trans key⟩
      simp only [Entity.addColumn, found, if_pos there]
  | none =>
      have absent : Name.snake c.name ∉ e.columns.map Column.key := by
        intro member
        rcases List.mem_map.mp member with ⟨old, listed, same⟩
        exact List.find?_eq_none.mp found old listed (beq_iff_eq.mpr (same.trans key.symm))
      simp only [Entity.addColumn, found, if_neg absent]

/-- The columns of the table in a schema are those of the declarations that it
keeps, in their order. -/
theorem columns_toEntity (t : StoredTable) (index : Nat) :
    (t.toEntity index).columns = (kept t.columns).map fun entry => t.columnOf entry.1 := by
  have all : forall declared : List StoredColumn,
      (declared.foldl (fun e c => (e.addColumn (t.columnOf c)).1)
        (Entity.empty (Name.snake t.name) index)).columns =
        (kept declared).map fun entry => t.columnOf entry.1 := by
    intro declared
    induction declared using List.reverseRecOn with
    | nil => rfl
    | append_singleton front c ih =>
        have keys : ((kept front).map fun entry => t.columnOf entry.1).map Column.key =
            (kept front).map fun entry => Name.snake entry.1.name := by
          rw [List.map_map]
          exact List.map_congr_left fun entry _ => t.key_columnOf entry.1
        rw [List.foldl_append, List.foldl_cons, List.foldl_nil, columns_addColumn, ih, keys,
          kept_append_singleton]
        simp only [mem_names_kept]
        split
        · rfl
        · rw [List.map_append]
          rfl
  exact all t.columns

/-! Cells under the columns. -/

/-- A stored table whose rows stand under the declared columns. -/
def declaredAs (name : Text) (declared : List StoredColumn) (rows : List (List StoredCell)) :
    StoredTable :=
  ⟨name, declared, declared.map StoredColumn.name, rows⟩

/-- Under a name, every row of the table in a schema has the cell of the stored row at one place. -/
def ReadsAt (t : StoredTable) (e : Entity) (name : Text) (place : Nat) : Prop :=
  forall (r : Nat) (cells : List StoredCell), t.rows[r]? = some cells ->
    exists (row : Row) (cell : StoredCell), e.rows[r]? = some row ∧ cells[place]? = some cell ∧
      row.cell? name = some cell.toScalar

/-- Every column of the table in a schema has its cells at the place of the
declaration that it was made from. -/
def Aligned (t : StoredTable) (e : Entity) : Prop :=
  forall c k, (c, k) ∈ kept t.columns -> t.ReadsAt e (t.columnOf c).name k

section

variable {name : Text} {declared : List StoredColumn} {rows : List (List StoredCell)} {e : Entity}

/-- Under a name, a row has the cell at the last place of that name. -/
theorem readsAt_last (full : forall cells, cells ∈ rows -> cells.length = declared.length)
    (kept : e.rows = rows.map (declaredAs name declared rows).rowOf) {column : Text} {l : Nat}
    (there : (schemaNames declared)[l]? = some column)
    (last : column ∉ (schemaNames declared).drop (l + 1)) :
    (declaredAs name declared rows).ReadsAt e column l := by
  intro r cells stored
  have size := full cells (List.mem_of_getElem? stored)
  have inside : l < cells.length := by
    have bound := (List.getElem?_eq_some_iff.mp there).1
    rwa [schemaNames, List.length_map, ← size] at bound
  refine ⟨(declaredAs name declared rows).rowOf cells, cells[l], ?_,
    List.getElem?_eq_getElem inside, ?_⟩
  · have same : rows[r]? = some cells := stored
    rw [kept, List.getElem?_map, same]
    rfl
  · have names : (declared.map StoredColumn.name).map Name.snake = schemaNames declared :=
      List.map_map
    have enough : (cells.map StoredCell.toScalar).length = (schemaNames declared).length := by
      rw [List.length_map, size, schemaNames, List.length_map]
    change Keyed.get? column (Keyed.ofPairs (((declared.map StoredColumn.name).map Name.snake).zip
      (cells.map StoredCell.toScalar))) = _
    rw [names, Keyed.get?_ofPairs_zip there last enough, List.getElem?_map,
      List.getElem?_eq_getElem inside]
    rfl

/-- A declaration that is kept names cells at the last place of its name, which
is not before its own. -/
theorem exists_readsAt_last (full : forall cells, cells ∈ rows -> cells.length = declared.length)
    (same : e.rows = rows.map (declaredAs name declared rows).rowOf) {c : StoredColumn} {k : Nat}
    (inKept : (c, k) ∈ kept declared) :
    exists l, k ≤ l ∧ (schemaNames declared)[l]? = some (Name.snake c.name) ∧
      Name.snake c.name ∉ (schemaNames declared).drop (l + 1) ∧
      (declaredAs name declared rows).ReadsAt e (Name.snake c.name) l := by
  rcases Keyed.exists_last (getElem?_schemaNames (mem_kept.mp inKept).1) with
    ⟨l, behind, there, last⟩
  exact ⟨l, behind, there, last, readsAt_last full same there last⟩

/-- Of two spellings of one name, the cell under the second one counts. -/
example :
    let declared : List StoredColumn := [⟨"aB".toList, "INT".toList, false, none, false⟩,
      ⟨"a_b".toList, "INT".toList, false, none, false⟩]
    ((declaredAs "t".toList declared []).rowOf [.scalar (.int 1), .scalar (.int 2)]).cell?
      "a_b".toList =
      some (.int 2) := by
  decide

def places (declared : List StoredColumn) : List StoredCell :=
  (List.range declared.length).map fun n : Nat => .scalar (.int n)

theorem eq_of_mem_places {k : Nat} {cell : StoredCell} (there : (places declared)[k]? = some cell) :
    cell = .scalar (.int k) := by
  rw [places, List.getElem?_map] at there
  rcases Option.map_eq_some_iff.mp there with ⟨n, inRange, rfl⟩
  rcases List.getElem?_eq_some_iff.mp inRange with ⟨_, same⟩
  rw [List.getElem_range] at same
  rw [same]

/-- Cells that are their own places stand under a name at one place only. -/
theorem eq_of_readsAt_places {column : Text} {k l : Nat}
    (first : (declaredAs name declared [places declared]).ReadsAt e column k)
    (second : (declaredAs name declared [places declared]).ReadsAt e column l) : k = l := by
  rcases first 0 (places declared) rfl with ⟨row, cell, found, there, value⟩
  rcases second 0 (places declared) rfl with ⟨other, last, again, thereToo, valueToo⟩
  obtain rfl : row = other := Option.some.inj (found.symm.trans again)
  rw [eq_of_mem_places there] at value
  rw [eq_of_mem_places thereToo, value] at valueToo
  exact Int.ofNat.inj (Scalar.int.inj (Option.some.inj valueToo))

theorem full_places (declared : List StoredColumn) :
    forall cells, cells ∈ [places declared] -> cells.length = declared.length := by
  intro cells member
  rw [List.mem_singleton.mp member]
  simp [places]

/-- Rows of cells that are their own places tell the first declaration of a name
from the last one. -/
theorem nodup_of_aligned_places
    (same : e.rows = [places declared].map (declaredAs name declared [places declared]).rowOf)
    (aligned : (declaredAs name declared [places declared]).Aligned e) :
    (schemaNames declared).Nodup := by
  apply List.nodup_iff_getElem?_ne_getElem?.mpr
  intro i j before inside equal
  rcases exists_kept (List.getElem?_eq_getElem (Nat.lt_trans before inside)) with
    ⟨c, k, inKept, upToI, named⟩
  rcases exists_readsAt_last (full_places declared) same inKept with ⟨l, _, _, last, readsLast⟩
  have atFirst : k = l := eq_of_readsAt_places (aligned c k inKept) readsLast
  have again : ((schemaNames declared).drop (l + 1))[j - (l + 1)]? = some (Name.snake c.name) := by
    rw [List.getElem?_drop, Nat.add_sub_cancel' (by omega), ← equal,
      List.getElem?_eq_getElem, named]
  exact last (List.mem_of_getElem? again)

/-- Where no two declarations come under one name, the first one is the last one. -/
theorem aligned_of_nodup (full : forall cells, cells ∈ rows -> cells.length = declared.length)
    (same : e.rows = rows.map (declaredAs name declared rows).rowOf)
    (distinct : (schemaNames declared).Nodup) : (declaredAs name declared rows).Aligned e := by
  intro c k inKept
  have there := getElem?_schemaNames (mem_kept.mp inKept).1
  rcases exists_readsAt_last full same inKept with ⟨l, _, atLast, _, readsLast⟩
  have inside : k < (schemaNames declared).length := (List.getElem?_eq_some_iff.mp there).1
  obtain rfl : k = l := (List.getElem?_inj inside distinct).mp (there.trans atLast.symm)
  exact readsLast

end

end StoredTable

namespace Database

open StoredTable

/-- The tables of the report are those of the database, apart from their depths. -/
theorem exists_entity (options : DepthOptions) (path : Text) (reverse : Option Bool)
    (front behind : List StoredTable) (t : StoredTable) :
    exists report e, read options ⟨front ++ t :: behind, none⟩ path reverse = .ok report ∧
      report.entities[front.length]? = some e ∧
      e.columns = (kept t.columns).map (fun entry => t.columnOf entry.1) ∧
      e.rows = t.rows.map t.rowOf := by
  let d : Database := ⟨front ++ t :: behind, none⟩
  let entities := Depth.calculate options.matcher.matcher (reverse.getD options.reverse) d.entities
  have views : entities.map (fun e => (e.columns, e.rows)) =
      d.tables.map fun t => ((kept t.columns).map (fun entry => t.columnOf entry.1),
        t.rows.map t.rowOf) :=
    (Depth.map_calculate _ (fun _ _ => rfl) _ _ _).trans
      (map_entities _ _ (fun t index => by rw [columns_toEntity]; rfl) d)
  have here : (entities.map fun e => (e.columns, e.rows))[front.length]? =
      some ((kept t.columns).map (fun entry => t.columnOf entry.1), t.rows.map t.rowOf) := by
    rw [views, List.getElem?_map, List.getElem?_append_right (Nat.le_refl _), Nat.sub_self]
    rfl
  rw [List.getElem?_map] at here
  rcases Option.map_eq_some_iff.mp here with ⟨e, found, parts⟩
  exact ⟨_, e, rfl, found, congrArg Prod.fst parts, congrArg Prod.snd parts⟩

/-- The rows of a stored table beside its columns, in the report on a database.  Of declarations
whose names come to be one, the table keeps the column of the first, but each row keeps the cell
of the last.  So whatever the rows are, every column has the cells of its own declaration exactly
where no two declarations come under one name. -/
theorem read_alignment (options : DepthOptions) (path : Text) (reverse : Option Bool)
    (front behind : List StoredTable) (name : Text) (declared : List StoredColumn) :
    (forall rows, (forall cells, cells ∈ rows -> cells.length = declared.length) ->
      exists report e,
        read options ⟨front ++ declaredAs name declared rows :: behind, none⟩ path reverse =
          .ok report ∧
        report.entities[front.length]? = some e ∧
        e.columns = (kept declared).map
          (fun entry => (declaredAs name declared rows).columnOf entry.1) ∧
        e.rows.length = rows.length ∧
        forall c k, (c, k) ∈ kept declared -> exists l, k ≤ l ∧
          (schemaNames declared)[l]? = some (Name.snake c.name) ∧
          Name.snake c.name ∉ (schemaNames declared).drop (l + 1) ∧
          (declaredAs name declared rows).ReadsAt e (Name.snake c.name) l) ∧
    ((forall rows report e, (forall cells, cells ∈ rows -> cells.length = declared.length) ->
        read options ⟨front ++ declaredAs name declared rows :: behind, none⟩ path reverse =
          .ok report ->
        report.entities[front.length]? = some e -> (declaredAs name declared rows).Aligned e) ↔
      (schemaNames declared).Nodup) := by
  have inReport := fun rows =>
    exists_entity options path reverse front behind (declaredAs name declared rows)
  refine ⟨?_, ?_, ?_⟩
  · intro rows full
    rcases inReport rows with ⟨report, e, read, found, columns, same⟩
    refine ⟨report, e, read, found,
      columns, ?_, fun c k inKept => exists_readsAt_last full same inKept⟩
    rw [same, List.length_map]
    rfl
  · intro aligned
    rcases inReport [places declared] with ⟨report, e, read, found, _, same⟩
    exact nodup_of_aligned_places same (aligned _ report e (full_places declared) read found)
  · intro distinct rows report e full read found
    rcases inReport rows with ⟨other, entity, readToo, foundToo, _, same⟩
    obtain rfl : report = other := Except.ok.inj (read.symm.trans readToo)
    obtain rfl : e = entity := Option.some.inj (found.symm.trans foundToo)
    exact aligned_of_nodup full same distinct

end Database
end SchemaAtlas
