import SchemaAtlas.Proofs.Keyed
import SchemaAtlas.Script.Read

namespace SchemaAtlas

/-!
The data of insertions, table by table.

Rows are added under a name at the end of what is there, and nowhere else.  So the rows under a name
are those of the insertions into that table, in order, and the data as a whole has as many rows as
the insertions have.
-/

namespace Script

/-! Adding the rows of one insertion. -/

/-- The sum of a size over a list. -/
def total {α : Type} (size : α -> Nat) (items : List α) : Nat :=
  items.foldr (fun item sum => size item + sum) 0

theorem total_cons {α : Type} (size : α -> Nat) (item : α) (items : List α) :
    total size (item :: items) = size item + total size items :=
  rfl

/-- The number of rows in all entries. -/
def rowCount (data : Keyed (List Row)) : Nat :=
  total (fun entry => entry.2.length) data

/-- Rows as an entry: there is no entry without rows. -/
def entryOf (rows : List Row) : Option (List Row) :=
  if rows.isEmpty then none else some rows

theorem getD_entryOf (rows : List Row) : (entryOf rows).getD [] = rows := by
  cases rows with
  | nil => rfl
  | cons row rest => rfl

/-- Data in which no name is repeated and every entry has rows. -/
structure Tidy (data : Keyed (List Row)) : Prop where
  distinct : (Keyed.names data).Nodup
  filled : forall key, Keyed.get? key data ≠ some []

theorem Tidy.get?_eq {data : Keyed (List Row)} (tidy : Tidy data) (key : Text) :
    Keyed.get? key data = entryOf ((Keyed.get? key data).getD []) := by
  cases found : Keyed.get? key data with
  | none => rfl
  | some rows =>
      cases rows with
      | nil => exact absurd found (tidy.filled key)
      | cons row rest => rfl

theorem rowCount_set (key : Text) (rows : List Row) (data : Keyed (List Row)) :
    rowCount (Keyed.set key rows data) + ((Keyed.get? key data).getD []).length =
      rowCount data + rows.length := by
  induction data with
  | nil => simp [rowCount, total, Keyed.set, Keyed.get?]
  | cons entry rest ih =>
      rcases entry with ⟨k, old⟩
      by_cases here : k = key
      · subst here
        simp only [rowCount, Keyed.set, Keyed.get?, beq_self_eq_true, if_true, total_cons,
          Option.getD_some]
        omega
      · simp only [rowCount] at ih
        simp only [rowCount, Keyed.set, Keyed.get?, beq_iff_eq, if_neg here, total_cons]
        omega

theorem getD_addRows (data : Keyed (List Row)) (key other : Text) (rows : List Row) :
    (Keyed.get? other (addRows data key rows)).getD [] =
      (Keyed.get? other data).getD [] ++ if key = other then rows else [] := by
  unfold addRows
  cases rows with
  | nil => simp
  | cons row rest =>
      simp only [List.isEmpty_cons, Bool.false_eq_true, if_false, Keyed.get?_set]
      by_cases same : key = other
      · subst same
        simp only [if_true, Option.getD_some]
      · simp only [if_neg same, List.append_nil]

theorem rowCount_addRows (data : Keyed (List Row)) (key : Text) (rows : List Row) :
    rowCount (addRows data key rows) = rowCount data + rows.length := by
  unfold addRows
  cases rows with
  | nil => rfl
  | cons row rest =>
      have counted := rowCount_set key ((Keyed.get? key data).getD [] ++ row :: rest) data
      simp only [List.isEmpty_cons, Bool.false_eq_true, if_false]
      rw [List.length_append] at counted
      omega

theorem Tidy.addRows {data : Keyed (List Row)} (tidy : Tidy data) (key : Text) (rows : List Row) :
    Tidy (addRows data key rows) := by
  unfold Script.addRows
  cases rows with
  | nil => exact tidy
  | cons row rest =>
      simp only [List.isEmpty_cons, Bool.false_eq_true, if_false]
      refine ⟨Keyed.nodup_names_set _ _ tidy.distinct, ?_⟩
      intro other
      rw [Keyed.get?_set]
      by_cases same : key = other
      · simp [same]
      · simpa only [if_neg same] using tidy.filled other

/-! The data of all insertions. -/

section

variable (pairPositional : Bool) (entities : List Entity)

/-- The rows of an insertion under the name where they are kept, and none under another. -/
def rowsAt (key : Text) (i : Insert) : List Row :=
  if dataKey entities i = key then rowsOf pairPositional entities i else []

theorem length_rowsOf (i : Insert) :
    (rowsOf pairPositional entities i).length = i.values.length := by
  unfold rowsOf
  cases i.columns.isEmpty with
  | false => simp [Insert.rows, Insert.rowsUnder]
  | true =>
      cases Entity.find? entities i.table with
      | none => simp
      | some e => cases pairPositional <;> simp [Insert.rowsUnder]

theorem getD_foldl_addRows (key : Text) (inserts : List Insert) (data : Keyed (List Row)) :
    (Keyed.get? key (inserts.foldl
        (fun data i => addRows data (dataKey entities i) (rowsOf pairPositional entities i))
          data)).getD [] =
      (Keyed.get? key data).getD [] ++ inserts.flatMap (rowsAt pairPositional entities key) := by
  induction inserts generalizing data with
  | nil => simp
  | cons i rest ih =>
      rw [List.foldl_cons, ih, getD_addRows, List.flatMap_cons, List.append_assoc]
      rfl

theorem tidy_dataOf (inserts : List Insert) : Tidy (dataOf pairPositional entities inserts) := by
  have kept : forall (data : Keyed (List Row)), Tidy data -> Tidy (inserts.foldl
      (fun data i => addRows data (dataKey entities i) (rowsOf pairPositional entities i))
        data) := by
    induction inserts with
    | nil => exact fun _ tidy => tidy
    | cons i rest ih => exact fun data tidy => ih _ (tidy.addRows _ _)
  exact kept [] ⟨List.nodup_nil, by simp [Keyed.get?]⟩

/-- Under each name stand the rows of the insertions into that table, in order. -/
theorem get?_dataOf (inserts : List Insert) (key : Text) :
    Keyed.get? key (dataOf pairPositional entities inserts) =
      entryOf (inserts.flatMap (rowsAt pairPositional entities key)) := by
  rw [(tidy_dataOf pairPositional entities inserts).get?_eq key]
  exact congrArg entryOf (getD_foldl_addRows pairPositional entities key inserts [])

theorem rowCount_dataOf (inserts : List Insert) :
    rowCount (dataOf pairPositional entities inserts) =
      total (fun i => i.values.length) inserts := by
  have counted : forall (data : Keyed (List Row)), rowCount (inserts.foldl
      (fun data i => addRows data (dataKey entities i) (rowsOf pairPositional entities i)) data) =
        rowCount data + total (fun i => i.values.length) inserts := by
    induction inserts with
    | nil => exact fun _ => rfl
    | cons i rest ih =>
        intro data
        rw [List.foldl_cons, ih, rowCount_addRows, length_rowsOf, total_cons, Nat.add_assoc]
  have none : rowCount [] = 0 := rfl
  rw [dataOf, counted, none, Nat.zero_add]

end

end Script
end SchemaAtlas
