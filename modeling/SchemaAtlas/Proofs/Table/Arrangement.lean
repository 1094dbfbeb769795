import SchemaAtlas.Proofs.Table.Entry

namespace SchemaAtlas
namespace Table

open Token Dialect

/-!
One table, many definitions.

A plan says what a table is: its name, its columns with their types and traits, and which columns
are its key.  An arrangement of the plan says how it is written down: in which order the traits of
each column stand, and whether the key is a trait of its columns or an element by itself, with or
without a label, somewhere among the columns.  Every arrangement of a plan defines the same table.
-/

namespace ColumnPlan

variable (c : ColumnPlan)

/-- The traits of the column, with the key among them where that is declared inline. -/
def marked (inline : Bool) : List Trait :=
  c.traits ++ if inline && c.inKey then [.key] else []

theorem distinct_marked (inline : Bool) : ((c.marked inline).map Trait.slot).Nodup := by
  rw [marked]
  split
  · rw [List.map_append, List.nodup_append]
    refine ⟨c.distinct, by simp, ?_⟩
    intro slot listed other isKey same
    rcases List.mem_map.mp listed with ⟨trait, member, rfl⟩
    have key : trait = .key := by
      obtain rfl : other = Trait.key.slot := by simpa using isKey
      cases trait with
      | key => rfl
      | _ => cases same
    exact c.unkeyed (key ▸ member)
  · rw [List.append_nil]
    exact c.distinct

/-- Without the key among them, traits make no key. -/
theorem inlineKey_foldl (g : Text -> Text) {traits : List Trait} (unkeyed : Trait.key ∉ traits)
    (a : Attributes) : (traits.foldl (Trait.addTo g c.name) a).inlineKey = a.inlineKey := by
  induction traits generalizing a with
  | nil => rfl
  | cons trait traits ih =>
      rw [List.foldl_cons, ih fun member => unkeyed (List.mem_cons_of_mem trait member)]
      cases trait with
      | key => exact absurd List.mem_cons_self unkeyed
      | _ => rfl

/-- The traits of a column in any order make its attributes, and the mark of the
key makes it a key column. -/
theorem attributes_of_perm (g : Text -> Text) {inline : Bool} {order : List Trait}
    (perm : order.Perm (c.marked inline)) :
    c.attributes g order = { c.attributes g c.traits with inlineKey := inline && c.inKey } := by
  have unmarked : (c.attributes g c.traits).inlineKey = false :=
    c.inlineKey_foldl g c.unkeyed c.start
  have distinct := (perm.map Trait.slot).nodup_iff.mpr (c.distinct_marked inline)
  rw [attributes, Trait.foldl_addTo_of_perm g c.name perm distinct, marked, List.foldl_append]
  cases inline && c.inKey with
  | true => rfl
  | false =>
      change c.attributes g c.traits = { c.attributes g c.traits with inlineKey := false }
      rw [← unmarked]

/-- The column as it is read, with the key where it is declared inline. -/
def keyedReading (g : Text -> Text) (inline : Bool) (c : ColumnPlan) : ColumnReading :=
  c.reading g { c.attributes g c.traits with inlineKey := inline && c.inKey }

end ColumnPlan

/-- What a table is, apart from how its definition is written. -/
structure TablePlan where
  name : Text
  named : Name.IsIdentifier name
  columns : List ColumnPlan
  filled : columns ≠ []
  distinct : (columns.map fun c => Text.lower c.name).Nodup

def TablePlan.keyNames (p : TablePlan) : List Text :=
  (p.columns.filter ColumnPlan.inKey).map ColumnPlan.name

/-- How the key is declared: by its columns, or by an element in front of some number of columns. -/
inductive KeyPlace (p : TablePlan) where
  | inline
  | apart (label : Option Label) (names : List Text) (perm : names.Perm p.keyNames) (position : Nat)

def KeyPlace.isInline {p : TablePlan} : KeyPlace p -> Bool
  | .inline => true
  | .apart _ _ _ _ => false

/-- A column with its traits in a certain order. -/
structure ArrangedColumn (inline : Bool) where
  plan : ColumnPlan
  order : List Trait
  perm : order.Perm (plan.marked inline)

/-- How the definition of a table is written. -/
structure Arrangement (p : TablePlan) where
  key : KeyPlace p
  columns : List (ArrangedColumn key.isInline)
  planned : columns.map ArrangedColumn.plan = p.columns

namespace ArrangedColumn

variable {inline : Bool} (x : ArrangedColumn inline)

theorem distinct : (x.order.map Trait.slot).Nodup :=
  (x.perm.map Trait.slot).nodup_iff.mpr (x.plan.distinct_marked inline)

def entry : Entry :=
  .column x.plan x.order x.distinct

theorem element_entry (g : Text -> Text) :
    x.entry.element g = .column (x.plan.keyedReading g inline) :=
  congrArg (fun a => Element.column (x.plan.reading g a)) (x.plan.attributes_of_perm g x.perm)

theorem elements_entries (g : Text -> Text) (columns : List (ArrangedColumn inline)) :
    (columns.map entry).map (fun e => e.element g) =
      ((columns.map plan).map (ColumnPlan.keyedReading g inline)).map Element.column := by
  rw [List.map_map, List.map_map, List.map_map]
  apply List.map_congr_left
  intro x _
  exact x.element_entry g

end ArrangedColumn

namespace TablePlan

variable (p : TablePlan)

theorem identifier_keyNames {names : List Text} (perm : names.Perm p.keyNames) :
    forall name, name ∈ names -> Name.IsIdentifier name := by
  intro name member
  rcases List.mem_map.mp (perm.mem_iff.mp member) with ⟨c, _, rfl⟩
  exact c.named

/-- The columns as they are read, with the key where it is declared inline. -/
def readings (g : Text -> Text) (inline : Bool) : List ColumnReading :=
  p.columns.map (ColumnPlan.keyedReading g inline)

def draft (g : Text -> Text) : Draft :=
  { Draft.empty with
    columns := (p.readings g true).map fun r => (r.column, r.counts)
    foreignKeys := (p.readings g true).flatMap ColumnReading.references }

end TablePlan

namespace Arrangement

variable {p : TablePlan} (a : Arrangement p)

def entries : List Entry :=
  match a.key with
  | .inline => a.columns.map ArrangedColumn.entry
  | .apart label _ perm position =>
    (a.columns.take position).map ArrangedColumn.entry ++
      Entry.key label (p.identifier_keyNames perm) :: (a.columns.drop position).map
        ArrangedColumn.entry

def text : Text :=
  entryText p.name a.entries id

end Arrangement

/-! The draft of a definition. -/

namespace Draft

/-- The elements of a table: its columns, with its key somewhere among them. -/
theorem ofElements_with_key {front behind : List ColumnReading}
    (distinct : ((front ++ behind).map fun r => r.column.key).Nodup) (names : List Text) :
    ofElements (front.map Element.column ++ .primaryKey names :: behind.map Element.column) =
      { Draft.empty with
        columns := (front ++ behind).map fun r => (r.column, r.counts)
        keyNames := names
        foreignKeys := (front ++ behind).flatMap ColumnReading.references
        constraints := 1 } := by
  rw [List.map_append] at distinct
  have before : (Draft.empty.columnKeys ++ front.map fun r => r.column.key).Nodup :=
    (List.nodup_append.mp distinct).1
  rw [ofElements, List.foldl_append, List.foldl_cons, foldl_add_columns before, foldl_add_columns]
  · simp [add, empty]
  · simpa [columnKeys, add, empty, Function.comp_def] using distinct

/-- A table is known from its columns with their keys settled, and from its references. -/
theorem entity_congr {d other : Draft} (keyed : d.keyed = other.keyed)
    (foreign : d.foreignKeys = other.foreignKeys) (name : QualifiedName) (index : Int) :
    d.entity name index = other.entity name index := by
  simp only [entity, keyed, foreign]

end Draft

namespace TablePlan

variable (p : TablePlan) (g : Text -> Text)

theorem keys_readings (inline : Bool) :
    (p.readings g inline).map (fun r => r.column.key) = p.columns.map fun c =>
      Text.lower c.name := by
  rw [readings, List.map_map]
  rfl

theorem references_readings (inline : Bool) :
    (p.readings g inline).flatMap ColumnReading.references =
      p.columns.flatMap fun c => (c.attributes g c.traits).references := by
  rw [readings, List.flatMap_map]
  rfl

/-- A key that is declared by itself makes the same columns key columns as one
that is declared inline. -/
theorem keyed_apart {names : List Text} (perm : names.Perm p.keyNames) (d : Draft)
    (columns : d.columns = (p.readings g false).map fun r => (r.column, r.counts))
    (named : d.keyNames = names) :
    d.keyed = (p.readings g true).map fun r => (r.column, r.counts) := by
  rw [Draft.keyed, columns, named, readings, readings, List.map_map, List.map_map, List.map_map]
  apply List.map_congr_left
  intro c member
  have found : (names.any fun name => Text.lower name == Text.lower c.name) = c.inKey := by
    rw [← any_filter_names p.distinct ColumnPlan.inKey member]
    exact perm.any_eq
  have key : (c.keyedReading g false).column.key = Text.lower c.name := rfl
  simp only [Function.comp_apply, key, found]
  cases inKey : c.inKey with
  | true => simp [ColumnPlan.keyedReading, ColumnPlan.reading, Column.settled, Column.asKey, inKey]
  | false => simp [ColumnPlan.keyedReading, inKey]

theorem keyed_draft :
    (p.draft g).keyed = (p.readings g true).map fun r => (r.column, r.counts) := by
  rw [Draft.keyed]
  exact (List.map_congr_left fun _ _ => rfl).trans (List.map_id _)

/-- The key columns of the draft are those of the plan. -/
theorem keys_draft :
    (((p.draft g).keyed.map Prod.fst).filter Column.primaryKey).map Column.name = p.keyNames := by
  have key : (fun c => (ColumnPlan.keyedReading g true c).column.primaryKey) =
      ColumnPlan.inKey := by
    funext c
    exact Bool.true_and c.inKey
  rw [keyed_draft, readings, List.map_map, List.map_map, List.filter_map, List.map_map,
    keyNames, ← key]
  rfl

end TablePlan

/-- What is read from an arrangement agrees with the draft of the plan. -/
theorem Arrangement.draft_entries {p : TablePlan} (a : Arrangement p) (g : Text -> Text) :
    (Draft.ofElements (a.entries.map fun e => e.element g)).keyed = (p.draft g).keyed ∧
      (Draft.ofElements (a.entries.map fun e => e.element g)).foreignKeys =
        (p.draft g).foreignKeys ∧
      (Draft.ofElements (a.entries.map fun e => e.element g)).columns ≠ [] := by
  have filled : forall inline, (p.readings g inline).map (fun r => (r.column, r.counts)) ≠ [] := by
    intro inline
    simpa [TablePlan.readings] using p.filled
  have distinct : forall inline, ((p.readings g inline).map fun r => r.column.key).Nodup :=
    fun inline =>
    p.keys_readings g inline ▸ p.distinct
  rcases a with ⟨key, columns, planned⟩
  cases key with
  | inline =>
      have elements : (Arrangement.entries ⟨.inline, columns, planned⟩).map (fun e => e.element g) =
          (p.readings g true).map Element.column := by
        rw [TablePlan.readings, ← planned]
        exact ArrangedColumn.elements_entries g columns
      have drafted : Draft.ofElements ((p.readings g true).map Element.column) = p.draft g :=
        Draft.foldl_add_columns (d := .empty) (distinct true)
      rw [elements, drafted]
      exact ⟨rfl, rfl, filled true⟩
  | apart label names perm position =>
      let front := ((columns.take position).map ArrangedColumn.plan).map
        (ColumnPlan.keyedReading g false)
      let behind := ((columns.drop position).map ArrangedColumn.plan).map
        (ColumnPlan.keyedReading g false)
      have parts : front ++ behind = p.readings g false := by
        rw [TablePlan.readings, ← planned, ← List.map_append, ← List.map_append,
          List.take_append_drop]
      have elements : (Arrangement.entries ⟨.apart label names perm position, columns, planned⟩).map
          (fun e => e.element g) = front.map Element.column ++
            .primaryKey names :: behind.map Element.column := by
        rw [Arrangement.entries, List.map_append, List.map_cons, ArrangedColumn.elements_entries,
          ArrangedColumn.elements_entries]
        rfl
      have apart : ((front ++ behind).map fun r => r.column.key).Nodup := parts ▸ distinct false
      have drafted := Draft.ofElements_with_key apart names
      rw [parts] at drafted
      rw [elements, drafted]
      refine ⟨?_, ?_, filled false⟩
      · rw [p.keyed_apart g perm _ rfl rfl, p.keyed_draft]
      · exact (p.references_readings g false).trans (p.references_readings g true).symm

/-- Every arrangement of a plan defines the same table, whose columns and key
are those of the plan. -/
theorem exists_table_of_arrangements (p : TablePlan) (index : Int) :
    exists e : Entity, e.name = p.name ∧ e.columnNames = p.columns.map ColumnPlan.name ∧
      e.primaryKey = PrimaryKey.ofNames p.keyNames ∧ forall a :
      Arrangement p, ofText a.text index = .ok e := by
  refine ⟨(p.draft unifyTypes).entity ⟨none, p.name⟩ index, rfl, ?_, ?_, ?_⟩
  · rw [Draft.columnNames_entity, TablePlan.draft, TablePlan.readings, List.map_map, List.map_map]
    rfl
  · exact congrArg PrimaryKey.ofNames (p.keys_draft unifyTypes)
  · intro a
    rcases a.draft_entries unifyTypes with ⟨keyed, foreign, declares⟩
    have nonempty : a.entries ≠ [] := by
      intro none
      rw [none] at declares
      exact declares rfl
    rw [Arrangement.text, ofText_entryText p.named nonempty declares,
      Draft.entity_congr keyed foreign]

/-! A table with a key of two columns. -/

def itemColumn : ColumnPlan where
  name := "item"
  named := Name.isIdentifier_of_checked (by decide) (by decide)
  base := "INT"
  known := by decide
  params := []
  traits :=
    [.required, .refers "items" "id" (Name.isIdentifier_of_checked (by decide) (by decide))
      (Name.isIdentifier_of_checked (by decide) (by decide))]
  distinct := by decide
  unkeyed := by simp
  inKey := true

def placeColumn : ColumnPlan where
  name := "place"
  named := Name.isIdentifier_of_checked (by decide) (by decide)
  base := "VARCHAR"
  known := by decide
  params :=
    [.ofDigits "20" (by decide) (List.all_iff_forall_prop.mp (by decide))
      (List.all_iff_forall_prop.mp (by decide))]
  traits := [.preset (.literal (.quoted "it's" (by decide))), .unique]
  distinct := by decide
  unkeyed := by simp
  inKey := true

def noteColumn : ColumnPlan where
  name := "note"
  named := Name.isIdentifier_of_checked (by decide) (by decide)
  base := "TEXT"
  known := by decide
  params := []
  traits := [.preset .null, .remark "seen (twice)" (by decide)]
  distinct := by decide
  unkeyed := by simp
  inKey := false

/-- What is stored of an item at a place. -/
def stockPlan : TablePlan where
  name := "stock"
  named := Name.isIdentifier_of_checked (by decide) (by decide)
  columns := [itemColumn, placeColumn, noteColumn]
  filled := List.cons_ne_nil _ _
  distinct := by decide

/-- The key among the traits of its columns. -/
def stockInline : Arrangement stockPlan where
  key := .inline
  columns :=
    [⟨itemColumn, itemColumn.traits ++ [.key], .refl _⟩,
      ⟨placeColumn, placeColumn.traits ++ [.key], .refl _⟩,
        ⟨noteColumn, noteColumn.traits, .refl _⟩]
  planned := rfl

/-- The key by itself with a label in front of all columns, its names and all
traits the other way round. -/
def stockLabelled : Arrangement stockPlan where
  key :=
    .apart (some (.bare "pk" (Name.isIdentifier_of_checked (by decide) (by decide))))
      ["place", "item"] (.swap _ _ _) 0
  columns :=
    [⟨itemColumn, itemColumn.traits.reverse, List.reverse_perm _⟩,
      ⟨placeColumn, placeColumn.traits.reverse, List.reverse_perm _⟩,
      ⟨noteColumn, noteColumn.traits.reverse, List.reverse_perm _⟩]
  planned := rfl

/-- The key by itself between the columns. -/
def stockBetween : Arrangement stockPlan where
  key := .apart none ["item", "place"] (.refl _) 2
  columns :=
    [⟨itemColumn, itemColumn.traits, .refl _⟩, ⟨placeColumn, placeColumn.traits, .refl _⟩,
      ⟨noteColumn, noteColumn.traits, .refl _⟩]
  planned := rfl

theorem stock_defined_thrice : exists e : Entity, e.primaryKey = .composite ["item", "place"] ∧
    ofText ("CREATE TABLE \x60stock\x60 (".toList ++
      "\x60item\x60 INT NOT NULL REFERENCES \x60items\x60(\x60id\x60) PRIMARY KEY, ".toList ++
      "\x60place\x60 VARCHAR(20) DEFAULT 'it''s' UNIQUE PRIMARY KEY, ".toList ++
      "\x60note\x60 TEXT DEFAULT NULL COMMENT 'seen (twice)')".toList) 0 = .ok e ∧
    ofText ("CREATE TABLE \x60stock\x60 (".toList ++
      "CONSTRAINT pk PRIMARY KEY (\x60place\x60, \x60item\x60), ".toList ++
      "\x60item\x60 INT REFERENCES \x60items\x60(\x60id\x60) NOT NULL, ".toList ++
      "\x60place\x60 VARCHAR(20) UNIQUE DEFAULT 'it''s', ".toList ++
      "\x60note\x60 TEXT COMMENT 'seen (twice)' DEFAULT NULL)".toList) 0 = .ok e ∧
    ofText ("CREATE TABLE \x60stock\x60 (".toList ++
      "\x60item\x60 INT NOT NULL REFERENCES \x60items\x60(\x60id\x60), ".toList ++
      "\x60place\x60 VARCHAR(20) DEFAULT 'it''s' UNIQUE, ".toList ++
      "PRIMARY KEY (\x60item\x60, \x60place\x60), ".toList ++
      "\x60note\x60 TEXT DEFAULT NULL COMMENT 'seen (twice)')".toList) 0 = .ok e := by
  rcases exists_table_of_arrangements stockPlan 0 with ⟨e, _, _, key, same⟩
  refine ⟨e, key, ?_, ?_, ?_⟩
  · exact (congrArg (ofText · 0) (by decide +kernel)).trans (same stockInline)
  · exact (congrArg (ofText · 0) (by decide +kernel)).trans (same stockLabelled)
  · exact (congrArg (ofText · 0) (by decide +kernel)).trans (same stockBetween)

end Table
end SchemaAtlas
