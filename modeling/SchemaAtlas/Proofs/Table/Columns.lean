import Mathlib.Data.List.Nodup
import SchemaAtlas.Proofs.Keyed
import SchemaAtlas.Scalar
import SchemaAtlas.Table.Read

namespace SchemaAtlas

/-!
The columns that a table body declares, and those that the table keeps.

Every element of a body that is no constraint declares a column.  The table keeps a column where the
type is known and no column kept before has the same name, whatever its case.  The others leave no
trace in the table, so its columns stand closer together than they were declared.
-/

namespace Table

/-- A column of a body: its name, and whether the table keeps it. -/
structure Declared where
  name : Text
  kept : Bool
deriving DecidableEq

/-- The name of the column that a group of tokens declares, and whether its type is known. -/
def declaration? (body : Text) (group : List Token) : Option (Text × Bool) :=
  match readElement body group with
  | .column r => some (r.column.name, true)
  | .dropped _ => group.head?.map fun t => (Name.stripQuotes t.value, false)
  | _ => none

/-- Declared columns after some keys that are taken. -/
def settle (taken : List Text) : List (Text × Bool) -> List Declared
  | [] => []
  | (name, known) :: rest =>
    if known && !taken.contains (Text.lower name) then
      ⟨name, true⟩ :: settle (taken ++ [Text.lower name]) rest
    else ⟨name, false⟩ :: settle taken rest

/-- The columns that a body declares, in order. -/
def declared (body : Text) : List Declared :=
  settle [] ((Token.groups (bodyTokens (Token.scan body .keep))).filterMap (declaration? body))

def keptNames (columns : List Declared) : List Text :=
  (columns.filter Declared.kept).map Declared.name

/-- The number of columns that are kept among those declared before a position. -/
def keptBefore (columns : List Declared) (position : Nat) : Nat :=
  (columns.take position).countP Declared.kept

theorem keptNames_settle_cons (taken : List Text) (name : Text) (known : Bool)
    (rest : List (Text × Bool)) :
    keptNames (settle taken ((name, known) :: rest)) =
      if known && !taken.contains (Text.lower name) then
        name :: keptNames (settle (taken ++ [Text.lower name]) rest)
      else keptNames (settle taken rest) := by
  rw [settle]
  cases known && !taken.contains (Text.lower name) with
  | true => rfl
  | false => rfl

/-- Among names that differ in more than their case, those of some items are
found for these items alone. -/
theorem any_filter_names {α : Type} {items : List α} {name : α -> Text}
    (distinct : (items.map fun item => Text.lower (name item)).Nodup) (test : α -> Bool) {item : α}
    (member : item ∈ items) :
    (((items.filter test).map name).any fun other => Text.lower other == Text.lower (name item)) =
      test item := by
  rw [List.any_map]
  cases holds : test item with
  | true =>
      exact List.any_eq_true.mpr ⟨item, List.mem_filter.mpr ⟨member, holds⟩,
        beq_self_eq_true (Text.lower (name item))⟩
  | false =>
      apply List.any_eq_false.mpr
      intro other listed same
      rcases List.mem_filter.mp listed with ⟨inItems, holdsToo⟩
      have equal : other = item :=
        List.inj_on_of_nodup_map distinct inItems member (beq_iff_eq.mp same)
      rw [equal, holds] at holdsToo
      cases holdsToo

namespace Draft

def columnKeys (d : Draft) : List Text :=
  d.columns.map fun entry => entry.1.key

theorem hasColumn_eq (d : Draft) (name : Text) :
    d.hasColumn name = d.columnKeys.contains (Text.lower name) := by
  unfold hasColumn columnKeys
  rw [List.contains_eq_any_beq, List.any_map]
  congr 1
  funext entry
  exact Bool.beq_comm

/-- The names of the columns of a draft after further elements: those before, then the columns that
the elements declare and that are kept. -/
theorem names_foldl_add (body : Text) (groups : List (List Token)) (d : Draft) :
    ((groups.map (readElement body)).foldl add d).columns.map (fun entry => entry.1.name) =
      d.columns.map (fun entry => entry.1.name) ++
        keptNames (settle d.columnKeys (groups.filterMap (declaration? body))) := by
  induction groups generalizing d with
  | nil => simp [settle, keptNames]
  | cons group rest ih =>
      rw [List.map_cons, List.foldl_cons, ih]
      cases element : readElement body group with
      | column r =>
          have told : declaration? body group = some (r.column.name, true) := by
            simp only [declaration?, element]
          rw [List.filterMap_cons_some told, keptNames_settle_cons, add, hasColumn_eq]
          cases taken : d.columnKeys.contains (Text.lower r.column.name) with
          | true => rfl
          | false =>
              simp only [Bool.not_false, Bool.and_self, Bool.false_eq_true, if_true, if_false,
                columnKeys, Column.key, List.map_append, List.map_cons, List.map_nil,
                  List.append_assoc, List.singleton_append]
      | primaryKey names =>
          have told : declaration? body group = none := by simp only [declaration?, element]
          rw [List.filterMap_cons_none told]
          rfl
      | foreignKey key =>
          have told : declaration? body group = none := by simp only [declaration?, element]
          rw [List.filterMap_cons_none told]
          rfl
      | otherConstraint =>
          have told : declaration? body group = none := by simp only [declaration?, element]
          rw [List.filterMap_cons_none told]
          rfl
      | dropped text =>
          cases group with
          | nil =>
              have told : declaration? body [] = none := by
                simp only [declaration?, element, List.head?_nil, Option.map_none]
              rw [List.filterMap_cons_none told]
              rfl
          | cons t tokens =>
              have told : declaration? body (t :: tokens) =
                  some (Name.stripQuotes t.value, false) := by
                simp only [declaration?, element, List.head?_cons, Option.map_some]
              rw [List.filterMap_cons_some told]
              rfl

/-- A column of a new name is taken. -/
theorem add_column {d : Draft} {r : ColumnReading} (absent : r.column.key ∉ d.columnKeys) :
    d.add (.column r) =
      { d with
        columns := d.columns ++ [(r.column, r.counts)],
        foreignKeys := d.foreignKeys ++ r.references } := by
  have free : d.hasColumn r.column.name = false := by
    rw [hasColumn_eq, ← Bool.not_eq_true, List.contains_iff_mem]
    exact absent
  simp [add, free]

/-- Columns of distinct names are all taken. -/
theorem foldl_add_columns {readings : List ColumnReading} {d : Draft}
    (distinct : (d.columnKeys ++ readings.map fun r => r.column.key).Nodup) :
    (readings.map Element.column).foldl add d =
      { d with
        columns := d.columns ++ readings.map fun r => (r.column, r.counts)
        foreignKeys := d.foreignKeys ++ readings.flatMap ColumnReading.references } := by
  induction readings generalizing d with
  | nil => simp
  | cons r readings ih =>
      have added := add_column (d := d) (r := r) fun taken =>
        (List.nodup_append.mp distinct).2.2 _ taken _ List.mem_cons_self rfl
      have later : (columnKeys (d.add (.column r)) ++ readings.map fun r =>
          r.column.key).Nodup := by
        simpa [added, columnKeys] using distinct
      rw [List.map_cons, List.foldl_cons, ih later, added]
      simp

/-- The columns of a table are those of its draft in all that neither keys nor counting change. -/
theorem map_columns_entity {α : Type} {f : Column -> α}
    (counted : forall c marked, f { c with autoIncrement := marked } = f c)
    (keyed : forall c : Column, f c.asKey = f c) (d : Draft) (name : QualifiedName) (index : Int) :
    (d.entity name index).columns.map f = d.columns.map fun entry => f entry.1 := by
  have counting : forall allowed entries, (countFirst allowed entries).map f =
      entries.map fun entry => f entry.1 := by
    intro allowed entries
    induction entries generalizing allowed with
    | nil => rfl
    | cons entry rest ih =>
        rcases entry with ⟨c, marked⟩
        rw [countFirst, List.map_cons, List.map_cons, ih, counted]
  change (countFirst _ d.keyed).map f = _
  rw [counting, Draft.keyed, List.map_map]
  apply List.map_congr_left
  intro entry _
  change f (ite _ _ _ : Column × Bool).1 = _
  split
  · exact keyed entry.1
  · rfl

theorem columnNames_entity (d : Draft) (name : QualifiedName) (index : Int) :
    (d.entity name index).columnNames = d.columns.map fun entry => entry.1.name :=
  map_columns_entity (fun _ _ => rfl) (fun _ => rfl) d name index

/-- One more element adds no column, or one whose key is new. -/
theorem columns_add (d : Draft) (e : Element) :
    (d.add e).columns = d.columns ∧ (forall r, e = .column r -> r.column.key ∈ d.columnKeys) ∨
      exists r, e = .column r ∧ r.column.key ∉ d.columnKeys ∧
        (d.add e).columns = d.columns ++ [(r.column, r.counts)] := by
  cases e with
  | column r =>
      have taken := d.hasColumn_eq r.column.name
      rw [Draft.add]
      cases there : d.hasColumn r.column.name with
      | true =>
          rw [there] at taken
          refine .inl ⟨rfl, ?_⟩
          rintro _ ⟨rfl⟩
          exact List.contains_iff_mem.mp taken.symm
      | false =>
          rw [there] at taken
          exact .inr ⟨r, rfl,
            fun member => Bool.noConfusion (taken.trans (List.contains_iff_mem.mpr member)), rfl⟩
  | primaryKey names => exact .inl ⟨rfl, by rintro r ⟨⟩⟩
  | foreignKey key => exact .inl ⟨rfl, by rintro r ⟨⟩⟩
  | otherConstraint => exact .inl ⟨rfl, by rintro r ⟨⟩⟩
  | dropped text => exact .inl ⟨rfl, by rintro r ⟨⟩⟩

theorem columns_subset_add (d : Draft) (e : Element) : d.columns ⊆ (d.add e).columns := by
  rcases columns_add d e with ⟨same, _⟩ | ⟨r, _, _, added⟩
  · rw [same]
    exact List.Subset.refl _
  · rw [added]
    exact List.subset_append_left _ _

theorem columns_subset_foldl_add (elements : List Element) (d : Draft) :
    d.columns ⊆ (elements.foldl add d).columns := by
  induction elements generalizing d with
  | nil => exact List.Subset.refl _
  | cons e elements ih => exact List.Subset.trans (columns_subset_add d e) (ih (d.add e))

theorem columnKeys_subset_add (d : Draft) (e : Element) : d.columnKeys ⊆ (d.add e).columnKeys :=
  List.map_subset _ (columns_subset_add d e)

end Draft

/-- A text that defines a table has a header with a name and a body with a column or a
constraint, and the table is that of the body's elements. -/
theorem ofText_eq_ok {t : Text} {index : Int} {e : Entity} (read : ofText t index = .ok e) :
    exists spelled body, header? (unifyTypes t) = some (spelled, body) ∧
      (QualifiedName.ofText spelled).table ≠ [] ∧
      ((Draft.ofElements (elements body)).columns ≠ [] ∨
        (Draft.ofElements (elements body)).constraints ≠ 0) ∧
      e = (Draft.ofElements (elements body)).entity (QualifiedName.ofText spelled) index := by
  simp only [ofText, definition] at read
  cases found : header? (unifyTypes t) with
  | none => simp only [found] at read; cases read
  | some header =>
      rcases header with ⟨spelled, body⟩
      refine ⟨spelled, body, rfl, ?_⟩
      simp only [found] at read
      cases named : (QualifiedName.ofText spelled).table.isEmpty with
      | true => simp only [named, if_true] at read; cases read
      | false =>
          simp only [named, Bool.false_eq_true, if_false, Definition.checked] at read
          refine ⟨List.isEmpty_eq_false_iff.mp named, ?_⟩
          cases bare : (Draft.ofElements (elements body)).columns.isEmpty &&
              (Draft.ofElements (elements body)).constraints == 0 with
          | true => simp only [bare, if_true] at read; cases read
          | false =>
              simp only [bare, Bool.false_eq_true, if_false, Except.ok.injEq] at read
              refine ⟨?_, read.symm⟩
              rcases Bool.and_eq_false_iff.mp bare with columns | constraints
              · exact Or.inl (List.isEmpty_eq_false_iff.mp columns)
              · exact Or.inr (beq_eq_false_iff_ne.mp constraints)

theorem rows_ofText {t : Text} {index : Int} {e : Entity} (read : ofText t index = .ok e) :
    e.rows = [] := by
  rcases ofText_eq_ok read with ⟨spelled, body, _, _, _, rfl⟩
  rfl

theorem index_ofText {t : Text} {index : Int} {e : Entity} (read : ofText t index = .ok e) :
    e.index = index := by
  rcases ofText_eq_ok read with ⟨spelled, body, _, _, _, rfl⟩
  rfl

theorem depth_ofText {t : Text} {index : Int} {e : Entity} (read : ofText t index = .ok e) :
    e.depth = 0 := by
  rcases ofText_eq_ok read with ⟨spelled, body, _, _, _, rfl⟩
  rfl

/-- A definition is read in the same way wherever its table stands, the index apart. -/
theorem ofText_at (t : Text) (index other : Int) :
    ofText t other = (ofText t index).map fun e => { e with index := other } := by
  simp only [ofText]
  cases definition (unifyTypes t) with
  | error e => rfl
  | ok d =>
      cases checked : d.checked with
      | error e => simp only [checked]; rfl
      | ok d => simp only [checked]; rfl

/-- The columns of a table are the declared ones that are kept, in order. -/
theorem columnNames_ofText {t : Text} {index : Int} {e : Entity} (read : ofText t index = .ok e) :
    exists spelled body, header? (unifyTypes t) = some (spelled, body) ∧
      e.columnNames = keptNames (declared body) := by
  rcases ofText_eq_ok read with ⟨spelled, body, found, _, _, rfl⟩
  refine ⟨spelled, body, found, ?_⟩
  rw [Draft.columnNames_entity]
  exact (Draft.names_foldl_add body _ Draft.empty).trans (List.nil_append _)

/-! Positions of columns. -/

theorem lower_keptNames_settle (taken : List Text) (declarations : List (Text × Bool)) (name : Text)
    (member : name ∈ keptNames (settle taken declarations)) : Text.lower name ∉ taken := by
  induction declarations generalizing taken with
  | nil => cases member
  | cons declaration rest ih =>
      rcases declaration with ⟨first, known⟩
      rw [keptNames_settle_cons] at member
      cases kept : known && !taken.contains (Text.lower first) with
      | false =>
          simp only [kept, Bool.false_eq_true, if_false] at member
          exact ih taken member
      | true =>
          simp only [kept, if_true] at member
          rcases List.mem_cons.mp member with rfl | later
          · simpa using (Bool.and_eq_true_iff.mp kept).2
          · intro before
            exact ih _ later (List.mem_append_left _ before)

/-- No name is kept twice. -/
theorem nodup_keptNames_settle (taken : List Text) (declarations : List (Text × Bool)) :
    (keptNames (settle taken declarations)).Nodup := by
  induction declarations generalizing taken with
  | nil => exact List.nodup_nil
  | cons declaration rest ih =>
      rcases declaration with ⟨first, known⟩
      rw [keptNames_settle_cons]
      cases known && !taken.contains (Text.lower first) with
      | false => exact ih taken
      | true =>
          refine List.nodup_cons.mpr ⟨?_, ih _⟩
          intro later
          exact lower_keptNames_settle _ rest first later (by simp)

theorem nodup_keptNames (body : Text) : (keptNames (declared body)).Nodup :=
  nodup_keptNames_settle [] _

/-- A kept column stands behind the kept columns that were declared before it. -/
theorem getElem?_keptNames {columns : List Declared} {position : Nat} {column : Declared}
    (there : columns[position]? = some column) (kept : column.kept = true) :
    (keptNames columns)[keptBefore columns position]? = some column.name := by
  induction columns generalizing position with
  | nil => simp at there
  | cons first rest ih =>
      cases position with
      | zero =>
          cases there
          simp [keptNames, keptBefore, kept]
      | succ position =>
          have later := ih there
          cases keptFirst : first.kept with
          | true => simpa [keptNames, keptBefore, keptFirst, List.countP_cons] using later
          | false => simpa [keptNames, keptBefore, keptFirst, List.countP_cons] using later

theorem keptBefore_le (columns : List Declared) (position : Nat) :
    keptBefore columns position ≤ position :=
  calc
    keptBefore columns position ≤ (columns.take position).length := List.countP_le_length
    _ ≤ position := List.length_take_le position columns

/-- A kept column stands where it was declared exactly where all columns before it are kept. -/
theorem keptBefore_eq_iff {columns : List Declared} {position : Nat}
    (inside : position < columns.length) : keptBefore columns position = position ↔
      forall column, column ∈ columns.take position -> column.kept = true := by
  have size : (columns.take position).length = position := by
    rw [List.length_take]
    omega
  constructor
  · intro same
    exact List.countP_eq_length.mp (same.trans size.symm)
  · intro all
    exact (List.countP_eq_length.mpr all).trans size

end Table

namespace Row

def cell? (name : Text) : Row -> Option Scalar
  | .keyed cells => Keyed.get? name cells
  | .positional _ => none

theorem names_align (names : List Text) (cells : List Scalar) :
    Keyed.names (align names cells) = names := by
  induction names generalizing cells with
  | nil => rfl
  | cons name names ih =>
      cases cells with
      | nil => exact congrArg (List.cons name) (ih [])
      | cons cell cells => exact congrArg (List.cons name) (ih cells)

theorem get?_align {names : List Text} (distinct : names.Nodup) {place : Nat} {name : Text}
    (there : names[place]? = some name) (cells : List Scalar) :
    Keyed.get? name (align names cells) = some (cells[place]?.getD .null) := by
  induction names generalizing place cells with
  | nil => simp at there
  | cons first names ih =>
      rcases List.nodup_cons.mp distinct with ⟨absent, later⟩
      cases place with
      | zero =>
          cases there
          cases cells with
          | nil => simp [align, Keyed.get?]
          | cons cell cells => simp [align, Keyed.get?]
      | succ place =>
          have different : ¬ first = name := by
            intro same
            exact absent (same ▸ List.mem_of_getElem? there)
          cases cells with
          | nil => simpa [align, Keyed.get?, different] using ih later there []
          | cons cell cells => simpa [align, Keyed.get?, different] using ih later there cells

/-- Under distinct names, each name has the cell that stands at its place. -/
theorem cell?_ofCells {names : List Text} (distinct : names.Nodup) {place : Nat} {name : Text}
    (there : names[place]? = some name) (cells : List Scalar) :
    (ofCells names cells).cell? name = some (cells[place]?.getD .null) := by
  have plain : Keyed.ofPairs (align names cells) = align names cells :=
    Keyed.ofPairs_of_nodup _ (by rw [names_align]; exact distinct)
  change Keyed.get? name (Keyed.ofPairs (align names cells)) = _
  rw [plain, get?_align distinct there]

end Row

namespace Table

/-- Cells put by position under the kept columns of a body: a column has the cell whose position
is the number of kept columns declared before it. -/
theorem cell?_of_declared (body : Text) {position : Nat} {column : Declared}
    (there : (declared body)[position]? = some column) (kept : column.kept = true)
    (cells : List Scalar) : (Row.ofCells (keptNames (declared body)) cells).cell? column.name =
      some (cells[keptBefore (declared body) position]?.getD .null) :=
  Row.cell?_ofCells (nodup_keptNames body) (getElem?_keptNames there kept) cells

/-- A column has the cell of its declared position, whatever the cells are, exactly where all
columns declared before it are kept. -/
theorem cell?_at_position_iff (body : Text) {position : Nat} {column : Declared}
    (there : (declared body)[position]? = some column) (kept : column.kept = true) :
    (forall cells : List Scalar, cells.length = (declared body).length ->
      (Row.ofCells (keptNames (declared body)) cells).cell? column.name = cells[position]?) ↔
      forall earlier, earlier ∈ (declared body).take position -> earlier.kept = true := by
  have inside : position < (declared body).length := (List.getElem?_eq_some_iff.mp there).1
  rw [← keptBefore_eq_iff inside]
  constructor
  · intro placed
    -- Cells that are their own positions tell where each of them went.
    have numbered := placed ((List.range (declared body).length).map fun (n : Nat) => Scalar.int n)
      (by simp)
    rw [cell?_of_declared body there kept] at numbered
    have early : keptBefore (declared body) position < (declared body).length :=
      Nat.lt_of_le_of_lt (keptBefore_le _ position) inside
    have moved : (keptBefore (declared body) position : Int) = position := by
      simpa [List.getElem?_map, List.getElem?_range, inside, early] using numbered
    exact Int.ofNat_inj.mp moved
  · intro unmoved cells enough
    rw [cell?_of_declared body there kept, unmoved, List.getElem?_eq_getElem (enough ▸ inside)]
    rfl

end Table
end SchemaAtlas
