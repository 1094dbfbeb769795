import Mathlib.Data.List.Nodup
import SchemaAtlas.Proofs.Table.Columns
import SchemaAtlas.Source.Database

namespace SchemaAtlas

/-!
Tables whose parts agree with one another.

Marks of columns come from several places: the attributes of a column, the constraints of its table,
its type, its default value, and for a stored table the declarations of a database.  However they
come, a table is coherent in the end.  Of a table definition the draft carries what every later step
keeps: distinct names, and columns that agree with themselves.
-/

namespace PrimaryKey

def names : PrimaryKey -> List Text
  | .none => []
  | .single name => [name]
  | .composite names => names

/-- Only a key of several columns is written as a list. -/
def Proper : PrimaryKey -> Prop
  | .composite names => 2 ≤ names.length
  | _ => True

theorem names_ofNames (columns : List Text) : (ofNames columns).names = columns := by
  rcases columns with _ | ⟨first, _ | ⟨second, rest⟩⟩
  · rfl
  · rfl
  · rfl

theorem proper_ofNames (columns : List Text) : (ofNames columns).Proper := by
  rcases columns with _ | ⟨first, _ | ⟨second, rest⟩⟩
  · trivial
  · trivial
  · change 2 ≤ (first :: second :: rest).length
    simp only [List.length_cons]
    omega

end PrimaryKey

namespace Column

/-- A key column is never empty. -/
def KeyIsRequired (c : Column) : Prop :=
  c.primaryKey = true -> c.nullable = false

/-- The type of a column is known, and its length and its values are those that the type calls
for: values and no length for a list of values, and for a type of fixed precision the numbers
that its length names. -/
structure FitsType (c : Column) : Prop where
  known : c.baseType ∈ Token.typeNames
  unsized : TypeText.isValueList c.baseType = true -> c.length = none
  precise : Dialect.isPrecise c.baseType = true -> c.enumValues = c.length.map Dialect.numericParams

theorem keyIsRequired_settled (c : Column) : c.settled.KeyIsRequired := by
  intro isKey
  change c.primaryKey = true at isKey
  simp [settled, isKey]

end Column

namespace Entity

/-- The parts of a table agree: names differ whatever their case, key columns are never empty, at
most one column counts by itself and none where the key has several columns, and the key names
the key columns in their order. -/
structure Coherent (e : Entity) : Prop where
  distinct : (e.columns.map Column.key).Nodup
  required : forall c, c ∈ e.columns -> c.KeyIsRequired
  counting : (e.columns.filter Column.autoIncrement).length ≤ 1
  composite : 2 ≤ e.keyColumns.length -> forall c, c ∈ e.columns -> c.autoIncrement = false
  named : e.primaryKey.names = e.keyColumns.map Column.name
  proper : e.primaryKey.Proper

end Entity

namespace Table

/-! Columns of a definition. -/

/-- The length and the values of a column fit its type. -/
theorem fitsType_of_sizeAndValues {base : Text} {params : Option (List Token)} {c : Column}
    (known : base ∈ Token.typeNames) (typed : c.baseType = base)
    (given : (c.length, c.enumValues) = sizeAndValues base params) : c.FitsType := by
  rw [← typed] at known given
  refine ⟨known, ?_, ?_⟩
  · intro isList
    cases params with
    | none => exact (Prod.mk.inj given).1
    | some tokens =>
        rw [sizeAndValues, if_pos isList] at given
        exact (Prod.mk.inj given).1
  · intro isPrecise
    have noList : ¬ TypeText.isValueList c.baseType = true := by
      rcases Bool.or_eq_true_iff.mp isPrecise with numeric | decimal
      · rw [beq_iff_eq.mp numeric]
        decide
      · rw [beq_iff_eq.mp decimal]
        decide
    cases params with
    | none =>
        rw [(Prod.mk.inj given).1, (Prod.mk.inj given).2]
        rfl
    | some tokens =>
        rw [sizeAndValues, if_neg noList] at given
        cases spelled : tokens.flatMap Token.value with
        | nil =>
            simp only [spelled] at given
            rw [(Prod.mk.inj given).1, (Prod.mk.inj given).2]
            rfl
        | cons d ds =>
            simp only [spelled, if_pos isPrecise] at given
            rw [(Prod.mk.inj given).1, (Prod.mk.inj given).2]
            rfl

/-- A column as a definition declares it, before keys and counting are settled. -/
structure Declares (c : Column) : Prop where
  required : c.KeyIsRequired
  fits : c.FitsType

theorem declares_readColumn {body : Text} {head second : Token} {rest : List Token}
    (column : isColumn head second rest = true) :
    Declares (readColumn body head second rest).column := by
  have known : Token.isTypeName (Name.stripQuotes second.value) = true :=
    (Bool.and_eq_true_iff.mp column).2
  constructor
  · exact Column.keyIsRequired_settled _
  · exact fitsType_of_sizeAndValues (List.contains_iff_mem.mp known) rfl rfl

theorem readConstraint_ne_column (tokens : List Token) (r : ColumnReading) :
    readConstraint tokens ≠ .column r := by
  intro same
  unfold readConstraint at same
  simp only at same
  split at same
  · cases same
  · split at same
    · split at same
      · cases same
      · cases same
    · cases same

theorem readOther_ne_column (tokens : List Token) (r : ColumnReading) :
    readOther tokens ≠ .column r := by
  intro same
  unfold readOther at same
  split at same
  · cases same
  · split at same
    · exact readConstraint_ne_column _ r same
    · split at same
      · exact readConstraint_ne_column _ r same
      · cases same

/-- An element that declares a column is a name, a known type, and the tokens behind them. -/
theorem readElement_eq_column {body : Text} {group : List Token} {r : ColumnReading}
    (element : readElement body group = .column r) :
    exists head second rest, group = head :: second :: rest ∧ isColumn head second rest = true ∧
      r = readColumn body head second rest := by
  unfold readElement at element
  split at element
  · rename_i head second rest
    split at element
    · rename_i column
      cases element
      exact ⟨head, second, rest, rfl, column, rfl⟩
    · exact absurd element (readOther_ne_column _ r)
  · exact absurd element (readOther_ne_column _ r)

theorem declares_readElement {body : Text} {group : List Token} {r : ColumnReading}
    (element : readElement body group = .column r) : Declares r.column := by
  rcases readElement_eq_column element with ⟨head, second, rest, rfl, column, rfl⟩
  exact declares_readColumn column

namespace Draft

/-- What a draft keeps while elements are added. -/
structure Sound (d : Draft) : Prop where
  distinct : d.columnKeys.Nodup
  declares : forall entry, entry ∈ d.columns -> Declares entry.1

theorem Sound.add {d : Draft} (sound : d.Sound) {e : Element}
    (column : forall r, e = .column r -> Declares r.column) : (d.add e).Sound := by
  cases e with
  | column r =>
      rw [Draft.add]
      cases taken : d.hasColumn r.column.name with
      | true =>
          rw [if_pos rfl]
          exact ⟨sound.distinct, sound.declares⟩
      | false =>
          have absent : r.column.key ∉ d.columnKeys := by
            rw [hasColumn_eq] at taken
            exact fun member => absurd (List.contains_iff_mem.mpr member)
              (Bool.eq_false_iff.mp taken)
          rw [if_neg Bool.false_ne_true]
          constructor
          · change ((d.columns ++ [(r.column, r.counts)]).map _).Nodup
            rw [List.map_append, List.map_singleton, ← List.concat_eq_append]
            exact List.Nodup.concat absent sound.distinct
          · intro entry member
            rcases List.mem_append.mp member with before | isNew
            · exact sound.declares entry before
            · rw [List.mem_singleton.mp isNew]
              exact column r rfl
  | primaryKey names => exact ⟨sound.distinct, sound.declares⟩
  | foreignKey key => exact ⟨sound.distinct, sound.declares⟩
  | otherConstraint => exact ⟨sound.distinct, sound.declares⟩
  | dropped text => exact ⟨sound.distinct, sound.declares⟩

theorem Sound.foldl_add {d : Draft} (sound : d.Sound) (body : Text) (groups : List (List Token)) :
    ((groups.map (readElement body)).foldl Draft.add d).Sound := by
  induction groups generalizing d with
  | nil => exact sound
  | cons group rest ih => exact ih (sound.add fun _ element => declares_readElement element)

theorem sound_elements (body : Text) : (ofElements (elements body)).Sound := by
  have start : Draft.empty.Sound := ⟨List.nodup_nil, by simp [empty]⟩
  exact start.foldl_add body _

/-! Settling keys and counting. -/

theorem declares_keyed {d : Draft} (sound : d.Sound) {entry : Column × Bool}
    (member : entry ∈ d.keyed) : Declares entry.1 := by
  rcases List.mem_map.mp member with ⟨before, listed, rfl⟩
  have declared := sound.declares before listed
  by_cases named : (d.keyNames.any fun name => Text.lower name == before.1.key) = true
  · simp only [named, if_true]
    exact ⟨fun _ => rfl, declared.fits.known, declared.fits.unsized, declared.fits.precise⟩
  · simp only [named, Bool.false_eq_true, if_false]
    exact declared

/-- Counting changes one mark of a column and nothing else of it. -/
theorem mem_countFirst {allowed : Bool} {entries : List (Column × Bool)} {c : Column}
    (member : c ∈ countFirst allowed entries) :
    exists entry, entry ∈ entries ∧ c = { entry.1 with autoIncrement := c.autoIncrement } := by
  induction entries generalizing allowed with
  | nil => cases member
  | cons entry rest ih =>
      rcases entry with ⟨first, marked⟩
      rw [countFirst] at member
      rcases List.mem_cons.mp member with rfl | later
      · exact ⟨(first, marked), List.mem_cons_self, rfl⟩
      · rcases ih later with ⟨other, listed, same⟩
        exact ⟨other, List.mem_cons_of_mem _ listed, same⟩

/-- At most one column counts by itself, and none where that is not allowed. -/
theorem length_counting (allowed : Bool) (entries : List (Column × Bool)) :
    ((countFirst allowed entries).filter Column.autoIncrement).length ≤ if allowed then 1
      else 0 := by
  induction entries generalizing allowed with
  | nil => simp [countFirst]
  | cons entry rest ih =>
      rcases entry with ⟨first, marked⟩
      rw [countFirst]
      have later := ih (allowed && !marked)
      cases allowed with
      | false => simpa using later
      | true =>
          cases marked with
          | false => simpa using later
          | true =>
              have nobody : ((countFirst false rest).filter Column.autoIncrement).length = 0 :=
                Nat.le_zero.mp later
              simp [nobody]

/-- The key columns, seen without the mark of counting. -/
theorem keyNames_countFirst (allowed : Bool) (entries : List (Column × Bool)) :
    ((countFirst allowed entries).filter Column.primaryKey).map Column.name =
      ((entries.map Prod.fst).filter Column.primaryKey).map Column.name := by
  induction entries generalizing allowed with
  | nil => rfl
  | cons entry rest ih =>
      rcases entry with ⟨first, marked⟩
      rw [countFirst]
      cases isKey : first.primaryKey with
      | true => simp [isKey, ih]
      | false => simp [isKey, ih]

theorem keys_entity (d : Draft) (name : QualifiedName) (index : Int) :
    (d.entity name index).columns.map Column.key = d.columnKeys := by
  have lowered := congrArg (List.map Text.lower) (columnNames_entity d name index)
  rw [Entity.columnNames, List.map_map, List.map_map] at lowered
  exact lowered

theorem coherent_entity {d : Draft} (sound : d.Sound) (name : QualifiedName) (index : Int) :
    (d.entity name index).Coherent := by
  let keys := (d.keyed.map Prod.fst).filter Column.primaryKey
  have allowed : (d.entity name index).columns = countFirst
    (decide (keys.length ≤ 1)) d.keyed := rfl
  have counting := length_counting (decide (keys.length ≤ 1)) d.keyed
  have keyNames : (d.entity name index).keyColumns.map Column.name = keys.map Column.name :=
    keyNames_countFirst _ _
  have keyCount : (d.entity name index).keyColumns.length = keys.length := by
    simpa using congrArg List.length keyNames
  constructor
  · rw [keys_entity]
    exact sound.distinct
  · intro c member
    rw [allowed] at member
    rcases mem_countFirst member with ⟨entry, listed, same⟩
    rw [same]
    exact (declares_keyed sound listed).required
  · rw [allowed]
    exact Nat.le_trans counting (by split <;> decide)
  · intro several c member
    rw [allowed] at member
    have few : ¬ keys.length ≤ 1 := by omega
    simp only [few, decide_false, Bool.false_eq_true, if_false, Nat.le_zero,
      List.length_eq_zero_iff, List.filter_eq_nil_iff, Bool.not_eq_true] at counting
    exact counting c (by simpa only [few, decide_false] using member)
  · exact (PrimaryKey.names_ofNames _).trans keyNames.symm
  · exact PrimaryKey.proper_ofNames _

theorem fitsType_entity {d : Draft} (sound : d.Sound) (name : QualifiedName) (index : Int)
    {c : Column} (member : c ∈ (d.entity name index).columns) : c.FitsType := by
  rcases mem_countFirst member with ⟨entry, listed, same⟩
  have fits := (declares_keyed sound listed).fits
  rw [same]
  exact ⟨fits.known, fits.unsized, fits.precise⟩

end Draft
end Table

/-! Stored tables. -/

namespace StoredTable

/-- The columns of a stored table, one after another: distinct names, and some of the declared
columns in their order. -/
theorem foldl_addColumn (t : StoredTable) (declared : List StoredColumn) (e : Entity)
    (distinct : (e.columns.map Column.key).Nodup) :
    ((declared.foldl (fun e c => (e.addColumn (t.columnOf c)).1) e).columns.map Column.key).Nodup ∧
      (declared.foldl (fun e c => (e.addColumn (t.columnOf c)).1) e).columns.Sublist
        (e.columns ++ declared.map t.columnOf) := by
  induction declared generalizing e with
  | nil => exact ⟨distinct, by simp⟩
  | cons first rest ih =>
      rw [List.foldl_cons]
      cases found : e.column? (t.columnOf first).name with
      | some old =>
          have same : (e.addColumn (t.columnOf first)).1 = e := by
            simp only [Entity.addColumn, found]
          rw [same]
          rcases ih e distinct with ⟨apart, among⟩
          refine ⟨apart, among.trans ?_⟩
          exact (List.Sublist.refl _).append (List.sublist_cons_self _ _)
      | none =>
          have added : (e.addColumn (t.columnOf first)).1.columns =
              e.columns ++ [t.columnOf first] := by
            simp only [Entity.addColumn, found]
          have absent : (t.columnOf first).key ∉ e.columns.map Column.key := by
            intro member
            rcases List.mem_map.mp member with ⟨c, listed, same⟩
            have differs := List.find?_eq_none.mp found c listed
            exact differs (beq_iff_eq.mpr same)
          have still : ((e.addColumn (t.columnOf first)).1.columns.map Column.key).Nodup := by
            rw [added, List.map_append, List.map_singleton, ← List.concat_eq_append]
            exact List.Nodup.concat absent distinct
          rcases ih _ still with ⟨apart, among⟩
          refine ⟨apart, ?_⟩
          rw [added, List.append_assoc, List.singleton_append] at among
          exact among

theorem length_keys (t : StoredTable) :
    ((t.columns.map t.columnOf).filter Column.primaryKey).length =
      (t.columns.filter StoredColumn.isKey).length := by
  rw [List.filter_map, List.length_map]
  rfl

/-- A stored column counts by itself only where it is the whole key. -/
theorem autoIncrement_columnOf {t : StoredTable} {c : StoredColumn}
    (counts : (t.columnOf c).autoIncrement = true) :
    c.isKey = true ∧ t.hasCompositeKey = false := by
  have parts : (StoredType.isInteger c.declared && c.isKey && !t.hasCompositeKey) = true := counts
  simp only [Bool.and_eq_true, Bool.not_eq_true'] at parts
  exact ⟨parts.1.2, parts.2⟩

theorem coherent_toEntity (t : StoredTable) (index : Nat) : (t.toEntity index).Coherent := by
  rcases t.foldl_addColumn t.columns (Entity.empty (Name.snake t.name) index) List.nodup_nil with
    ⟨apart, among⟩
  change (t.toEntity index).columns.Sublist (t.columns.map t.columnOf) at among
  have origin : forall c, c ∈ (t.toEntity index).columns ->
      exists stored, stored ∈ t.columns ∧ t.columnOf stored = c := by
    intro c member
    exact List.mem_map.mp (among.subset member)
  have keyed : (t.toEntity index).keyColumns.length ≤
      (t.columns.filter StoredColumn.isKey).length := by
    rw [← t.length_keys]
    exact (among.filter Column.primaryKey).length_le
  have single : forall c, c ∈ (t.toEntity index).columns -> c.autoIncrement = true ->
      c.primaryKey = true ∧ t.hasCompositeKey = false := by
    intro c member counts
    rcases origin c member with ⟨stored, _, rfl⟩
    exact autoIncrement_columnOf counts
  constructor
  · exact apart
  · intro c member
    rcases origin c member with ⟨stored, _, rfl⟩
    exact Column.keyIsRequired_settled _
  · -- Where some column counts, the key is not composite, and every counting column belongs to it.
    by_cases some : exists c, c ∈ (t.toEntity index).columns ∧ c.autoIncrement = true
    · rcases some with ⟨c, member, counts⟩
      have few : (t.columns.filter StoredColumn.isKey).length ≤ 1 := by
        have plain := (single c member counts).2
        simpa only [hasCompositeKey, decide_eq_false_iff_not, Nat.not_lt] using plain
      have inKey : ((t.toEntity index).columns.filter Column.autoIncrement).length ≤
          (t.toEntity index).keyColumns.length := by
        rw [Entity.keyColumns, ← List.countP_eq_length_filter, ← List.countP_eq_length_filter]
        exact List.countP_mono_left fun c member counts => (single c member counts).1
      exact Nat.le_trans inKey (Nat.le_trans keyed few)
    · have nobody : (t.toEntity index).columns.filter Column.autoIncrement = [] := by
        apply List.filter_eq_nil_iff.mpr
        intro c member counts
        exact some ⟨c, member, counts⟩
      rw [nobody]
      exact Nat.zero_le 1
  · intro several c member
    cases counts : c.autoIncrement with
    | false => rfl
    | true =>
        have plain := (single c member counts).2
        simp only [hasCompositeKey, decide_eq_false_iff_not, Nat.not_lt] at plain
        omega
  · exact PrimaryKey.names_ofNames _
  · exact PrimaryKey.proper_ofNames _

end StoredTable

/-- Every table that is produced is coherent, whether a text defines it or a database stores it.
The columns of a definition moreover fit their types. -/
theorem coherent_of_definition_or_storage :
    (forall (sql : Text) (index : Int) (e : Entity), Table.ofText sql index = .ok e ->
      e.Coherent ∧ forall c, c ∈ e.columns -> c.FitsType) ∧
    forall (t : StoredTable) (index : Nat), (t.toEntity index).Coherent := by
  refine ⟨?_, StoredTable.coherent_toEntity⟩
  intro sql index e read
  rcases Table.ofText_eq_ok read with ⟨spelled, body, _, _, _, rfl⟩
  have sound := Table.Draft.sound_elements body
  exact ⟨Table.Draft.coherent_entity sound _ _,
    fun c member => Table.Draft.fitsType_entity sound _ _ member⟩

/-- A definition with a counting column, a column named twice, and a key that is
marked in two ways. -/
def mixedMarks : Text :=
  "CREATE TABLE t (id INT NULL AUTO_INCREMENT, `Code` DECIMAL(10, 2), code ENUM('a'), ".toList ++
    "n SERIAL PRIMARY KEY, PRIMARY KEY (ID))".toList

theorem coherent_mixedMarks :
    exists e, Table.ofText mixedMarks 0 = .ok e ∧
      e.primaryKey = .composite ["id".toList, "n".toList] ∧
      e.Coherent ∧ forall c, c ∈ e.columns -> c.FitsType := by
  have evaluated : (Table.ofText mixedMarks 0).toOption.map Entity.primaryKey =
      some (.composite ["id".toList, "n".toList]) := by
    decide +kernel
  cases read : Table.ofText mixedMarks 0 with
  | error f =>
      rw [read] at evaluated
      cases evaluated
  | ok e =>
      rw [read] at evaluated
      exact ⟨e, rfl, Option.some.inj evaluated,
        coherent_of_definition_or_storage.1 mixedMarks 0 e read⟩

end SchemaAtlas
