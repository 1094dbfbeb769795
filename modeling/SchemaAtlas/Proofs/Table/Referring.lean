import SchemaAtlas.Proofs.Table.Action
import SchemaAtlas.Proofs.Table.Columns
import SchemaAtlas.Proofs.Table.Entry

namespace SchemaAtlas

/-!
Columns that refer to another table and say what to do when the target is deleted or changed.

Such a column ends with its reference and the actions of that.  Names in backticks may hold anything
here, inner backticks written twice.  With its actions a definition is read as it is without them,
apart from the default value of the column.
-/

/-! Another default value. -/

/-- The column with another default value, if it has the key. -/
def Column.withDefault (key : Text) (default : Option Text) (c : Column) : Column :=
  if c.key = key then { c with default := default } else c

/-- The table with another default value for the column of a key. -/
def Entity.withDefault (key : Text) (default : Option Text) (e : Entity) : Entity :=
  { e with columns := e.columns.map (Column.withDefault key default) }

section WithDefault

variable (key : Text) (default : Option Text)

theorem Column.name_withDefault (c : Column) : (c.withDefault key default).name = c.name := by
  rw [withDefault]
  split <;> rfl

theorem Column.key_withDefault (c : Column) : (c.withDefault key default).key = c.key := by
  rw [Column.key, name_withDefault, Column.key]

theorem Column.primaryKey_withDefault (c : Column) :
    (c.withDefault key default).primaryKey = c.primaryKey := by
  rw [withDefault]
  split <;> rfl

theorem Column.asKey_withDefault (c : Column) :
    (c.withDefault key default).asKey = c.asKey.withDefault key default := by
  rw [withDefault, withDefault]
  change _ = if c.key = key then _ else _
  split <;> rfl

namespace Table.Draft

/-- The draft with another default value for the column of a key. -/
def withDefault (d : Draft) : Draft :=
  { d with columns := d.columns.map fun entry => (entry.1.withDefault key default, entry.2) }

theorem columnKeys_withDefault (d : Draft) :
    (d.withDefault key default).columnKeys = d.columnKeys := by
  rw [columnKeys, withDefault, List.map_map]
  exact List.map_congr_left fun entry _ => Column.key_withDefault key default entry.1

variable {key}

theorem withDefault_of_not_mem {d : Draft} (absent : key ∉ d.columnKeys) :
    d.withDefault key default = d := by
  have same : d.columns.map (fun entry => (entry.1.withDefault key default, entry.2)) =
      d.columns.map id := by
    apply List.map_congr_left
    intro entry member
    have other : entry.1.key ≠ key := fun equal => absent (equal ▸ List.mem_map_of_mem member)
    rw [Column.withDefault, if_neg other]
    rfl
  rw [withDefault, same, List.map_id]

/-- Where the column is there already, what is added is another column or none. -/
theorem add_withDefault {d : Draft} (present : key ∈ d.columnKeys) (e : Element) :
    (d.withDefault key default).add e = (d.add e).withDefault key default := by
  cases e with
  | column r =>
      have taken : (d.withDefault key default).hasColumn r.column.name =
          d.hasColumn r.column.name := by
        rw [hasColumn_eq, hasColumn_eq, columnKeys_withDefault]
      rw [add, add, taken]
      cases there : d.hasColumn r.column.name with
      | true => rfl
      | false =>
          have other : r.column.key ≠ key := by
            rintro rfl
            rw [hasColumn_eq] at there
            exact Bool.noConfusion (there.symm.trans (List.contains_iff_mem.mpr present))
          simp [withDefault, Column.withDefault, other]
  | primaryKey names => rfl
  | foreignKey key => rfl
  | otherConstraint => rfl
  | dropped text => rfl

theorem foldl_add_withDefault (elements : List Element) {d : Draft} (present : key ∈ d.columnKeys) :
    elements.foldl add (d.withDefault key default) =
      (elements.foldl add d).withDefault key default := by
  induction elements generalizing d with
  | nil => rfl
  | cons e elements ih =>
      rw [List.foldl_cons, List.foldl_cons, add_withDefault default present e,
        ih (columnKeys_subset_add d e present)]

/-- A column with another default value, where no column of its key stands before it. -/
theorem ofElements_withDefault {front : List Element} {r other : ColumnReading}
    (same : other = { r with column := { r.column with default := default } })
    (absent : r.column.key ∉ (ofElements front).columnKeys) (behind : List Element) :
    ofElements (front ++ .column other :: behind) =
      (ofElements (front ++ .column r :: behind)).withDefault r.column.key default := by
  have absentToo : other.column.key ∉ (ofElements front).columnKeys := by
    rw [same]
    exact absent
  have kept := congrArg Draft.columns (withDefault_of_not_mem default absent)
  have changed : r.column.withDefault r.column.key default = other.column := by
    rw [same]
    exact if_pos rfl
  have others : r.counts = other.counts ∧ r.references = other.references := by
    rw [same]
    exact ⟨rfl, rfl⟩
  have added : (ofElements front).add (.column other) =
      ((ofElements front).add (.column r)).withDefault r.column.key default := by
    rw [add_column absentToo, add_column absent]
    simp only [withDefault, List.map_append, List.map_cons, List.map_nil, changed, others] at kept ⊢
    rw [kept]
  have present : r.column.key ∈ ((ofElements front).add (.column r)).columnKeys := by
    rw [add_column absent]
    simp [columnKeys]
  simp only [ofElements, List.foldl_append, List.foldl_cons] at added present ⊢
  rw [added, foldl_add_withDefault default behind present]

/-- A column whose key does not stand before it is among those of the draft. -/
theorem mem_columns_ofElements {front : List Element} {r : ColumnReading}
    (absent : r.column.key ∉ (ofElements front).columnKeys) (behind : List Element) :
    (r.column, r.counts) ∈ (ofElements (front ++ .column r :: behind)).columns := by
  have added := add_column absent
  simp only [ofElements, List.foldl_append, List.foldl_cons] at added ⊢
  rw [added]
  exact columns_subset_foldl_add behind _ (by simp)

variable (key) in
theorem countFirst_withDefault (allowed : Bool) (entries : List (Column × Bool)) :
    countFirst allowed (entries.map fun entry => (entry.1.withDefault key default, entry.2)) =
      (countFirst allowed entries).map (Column.withDefault key default) := by
  induction entries generalizing allowed with
  | nil => rfl
  | cons entry entries ih =>
      rcases entry with ⟨c, marked⟩
      have counted : { c.withDefault key default with autoIncrement := marked && allowed } =
          Column.withDefault key default { c with autoIncrement := marked && allowed } := by
        rw [Column.withDefault, Column.withDefault]
        change _ = if c.key = key then _ else _
        split <;> rfl
      rw [List.map_cons, countFirst, countFirst, List.map_cons, ih, counted]

variable (key) in
theorem keyed_withDefault (d : Draft) :
    (d.withDefault key default).keyed = d.keyed.map fun entry =>
      (entry.1.withDefault key default, entry.2) := by
  rw [keyed, keyed, withDefault, List.map_map, List.map_map]
  apply List.map_congr_left
  intro entry _
  simp only [Function.comp_apply, Column.key_withDefault]
  split
  · rw [Column.asKey_withDefault]
  · rfl

/-- Neither the keys of a table nor its counting column depend on default values. -/
theorem entity_withDefault (d : Draft) (name : QualifiedName) (index : Int) :
    (d.withDefault key default).entity name index =
      (d.entity name index).withDefault key default := by
  have columns : (d.withDefault key default).keyed.map Prod.fst =
      (d.keyed.map Prod.fst).map (Column.withDefault key default) := by
    rw [keyed_withDefault, List.map_map, List.map_map]
    rfl
  have keys : ((d.keyed.map Prod.fst).map (Column.withDefault key default)).filter
      Column.primaryKey =
      ((d.keyed.map Prod.fst).filter Column.primaryKey).map (Column.withDefault key default) := by
    rw [List.filter_map]
    congr 1
    exact List.filter_congr fun c _ => Column.primaryKey_withDefault key default c
  have names : (((d.keyed.map Prod.fst).filter Column.primaryKey).map
      (Column.withDefault key default)).map Column.name =
      ((d.keyed.map Prod.fst).filter Column.primaryKey).map Column.name := by
    rw [List.map_map]
    exact List.map_congr_left fun c _ => Column.name_withDefault key default c
  simp only [entity, Entity.withDefault]
  rw [columns, keys, names, List.length_map, keyed_withDefault, countFirst_withDefault]
  rfl

end Table.Draft
end WithDefault

namespace Table

open Token Dialect

/-! Columns with a reference behind their traits. -/

/-- A column that refers to a column of a table. -/
structure ReferringColumn where
  name : Text
  base : Text
  known : base ∈ typeNames
  params : List Lit
  traits : List Trait
  distinct : (traits.map Trait.slot).Nodup
  table : Text
  column : Text

namespace ReferringColumn

variable (c : ReferringColumn)

def reference (g : Text -> Text) : Text :=
  "REFERENCES ".toList ++
    (Name.backticked (g c.table) ++ '(' :: (Name.backticked (g c.column) ++ [')']))

/-- The column as it is written, with the actions of its reference. -/
def frame (actions : List Action) (g : Text -> Text) : Text :=
  Name.backticked (g c.name) ++ ' ' :: typeFrame c.base c.params g ++
    (c.traits.flatMap fun trait => ' ' :: trait.frame g) ++
    ' ' :: c.reference g ++ spacedWords (wordsOf actions)

def readName (g : Text -> Text) : Text :=
  Text.double '\x60' (g c.name)

/-- The attributes that the traits and the reference make. -/
def attributes (g : Text -> Text) : Attributes :=
  let a := c.traits.foldl (Trait.addTo g (c.readName g))
    ⟨true, false, serialTypes.contains c.base, none, none, []⟩
  { a with references := a.references ++
      (target? [c.readName g] (Text.double '\x60' (g c.table))
        (Text.double '\x60' (g c.column))).toList }

/-- The default value of the column behind some actions, as it is stored. -/
def storedDefault (g : Text -> Text) (actions : List Action) : Option Text :=
  Default.normal? (defaultAfter false (c.attributes g).default actions) c.base
    (paramSize c.base c.params g).1

def reading (g : Text -> Text) (actions : List Action) : ColumnReading where
  column := Column.settled
    { name := c.readName g
      baseType := c.base
      length := (paramSize c.base c.params g).1
      nullable := (c.attributes g).nullable
      default := c.storedDefault g actions
      primaryKey := (c.attributes g).inlineKey
      autoIncrement := false
      enumValues := (paramSize c.base c.params g).2
      comment := (c.attributes g).comment }
  counts := (c.attributes g).autoIncrement
  references := (c.attributes g).references

theorem isItem (actions : List Action) : Frame.IsItem (c.frame actions) := by
  have name := Frame.isItem_backticked c.name
  have reference : Frame.IsItem c.reference :=
    Frame.IsItem.pair (isItem_fixed "REFERENCES".toList (by decide))
      ((Frame.isItem_backticked c.table).grouped (Frame.isItem_backticked c.column))
  rcases Frame.spaced_items (fun trait (_ : trait ∈ c.traits) => trait.isItem) with
    ⟨traitsKept, traitsLead⟩
  rcases Frame.spaced_items
    (fun word (member : word ∈ wordsOf actions) => isItem_action word (mem_actionWords member))
    with ⟨wordsKept, wordsLead⟩
  exact ((name.pair (isItem_type c.known c.params)).append traitsLead traitsKept).pair reference
    |>.append wordsLead wordsKept

/-- The tokens of the column: its name, its type, its traits group by group, its reference,
and the words of actions. -/
def Shown (actions : List Action) (g : Text -> Text) (body : Text) (tokens : List Token) : Prop :=
  exists head second params groups reference words,
    tokens = head :: second :: (params ++ (groups.flatten ++ (reference ++ words))) ∧
    head.form = (.quotedIdentifier, Name.backticked (g c.name)) ∧
      second.form = (.typeName, c.base) ∧
    params.map form = paramForms c.params g ∧ Trait.AllShown g body c.traits groups ∧
    reference.map form = referenceForms (Text.double '\x60' (g c.table))
      (Text.double '\x60' (g c.column)) ∧
    Spelled body (wordsOf actions) words

variable {g : Text -> Text}

theorem gives_shown (keeps : KeepsPlain g) (actions : List Action) :
    Gives (c.frame actions g) fun body tokens => c.Shown actions g body tokens := by
  have front :=
    (segment_pair (segment_backticked (g c.name)) (segment_type keeps c.known c.params)).gives
  have traits := gives_spaced fun trait (_ : trait ∈ c.traits) => trait.gives keeps
  have target := (segment_backticked (g c.table)).append (broken_cons (by decide) _)
    (segment_parens (segment_backticked (g c.column)))
  have reference := (segment_pair (segment_reserved "REFERENCES".toList (by decide)) target).gives
  have words := gives_words fun word (member : word ∈ wordsOf actions) =>
    isBareWord_of_mem_actionWords (mem_actionWords member)
  have given := ((front.append (broken_spaced _ c.traits) traits).append (broken_cons (by decide) _)
    (reference.blank_cons (by decide : Text.isBlank ' ' = true))).append
      (broken_spaced id (wordsOf actions)) words
  refine given.imp ?_
  rintro body tokens ⟨_, words, rfl,
    ⟨_, reference, rfl, ⟨first, _, rfl, formed, groups, shown, rfl⟩, referring⟩, spelled⟩
  rcases List.map_eq_cons_iff.mp formed with ⟨head, others, rfl, formedHead, formedOthers⟩
  rcases List.map_eq_cons_iff.mp formedOthers with ⟨second, params, rfl, formedSecond, formedParams⟩
  refine ⟨head, second, params, groups, reference, words, ?_, formedHead, formedSecond,
    formedParams, shown, referring, spelled⟩
  simp

section Shown

variable {c} {actions : List Action} {body : Text} {tokens : List Token}

theorem Shown.returning (shown : c.Shown actions g body tokens) :
    returns 0 (tokens.map kind) = true := by
  rcases shown with ⟨head, second, params, groups, reference, words, rfl, formedHead, formedSecond,
    formedParams, traits, formedReference, spelled⟩
  have flat : Flat ((wordsOf actions).map wordForm) := by
    intro f member
    rcases List.mem_map.mp member with ⟨word, _, rfl⟩
    simp only [wordForm, wordKind]
    split
    · simp
    · split <;> simp
  have behind := flat.returns_append 0 []
  rw [List.append_nil] at behind
  rw [List.map_cons, List.map_cons, kind_of_form formedHead, kind_of_form formedSecond,
    List.map_append, List.map_append, List.map_append, kinds_of_forms formedParams,
    kinds_of_forms (Trait.forms_of_allShown traits), kinds_of_forms formedReference,
    kinds_of_forms spelled.map_form]
  change returns 0 (_ ++ _) = true
  rw [returns_paramForms, Trait.returns_flatMap]
  exact behind

/-- The column is read with its traits, its reference, and a default value that
its actions may change. -/
theorem Shown.readElement_eq (shown : c.Shown actions g body tokens) (keeps : KeepsPlain g) :
    readElement body tokens = .column (c.reading g actions) := by
  rcases shown with ⟨head, second, params, groups, reference, words, rfl, formedHead, formedSecond,
    formedParams, traits, formedReference, spelled⟩
  rcases readElement_of_known c.known formedHead formedSecond body
      (params ++ (groups.flatten ++ (reference ++ words))) with
    ⟨declared, name, base⟩
  rcases List.map_eq_cons_iff.mp formedReference with ⟨first, target, rfl, formedFirst, _⟩
  have unopened : forall t, (first :: target ++ words).head? = some t -> t.kind ≠ .openParen := by
    intro t isFirst
    obtain rfl : first = t := Option.some.inj isFirst
    simp [kind_of_form formedFirst]
  have stops : defaultLength 0 false (first :: target ++ words) = 0 := by
    rw [List.cons_append, defaultLength, Mark.word_of_form formedFirst (by decide)]
    rfl
  rcases exists_typeParams c.base formedParams (Trait.unopened_of_allShown traits unopened) with
    ⟨inside, found, sized⟩
  have attributes := Trait.readAttributes_flatten_append keeps traits c.distinct (c.readName g)
    ⟨true, false, serialTypes.contains c.base, none, none, []⟩ unopened stops
  rw [readAttributes_reference formedReference, (readAttributes_actions spelled _).1] at attributes
  rw [declared]
  simp only [readColumn, name, base, found, sized]
  rw [readName] at attributes
  rw [attributes]
  rfl

end Shown

def entry (actions : List Action) : Entry where
  frame := c.frame actions
  element g := .column (c.reading g actions)
  isItem := c.isItem actions
  gives g keeps := by
    refine (c.gives_shown keeps actions).imp ?_
    intro body tokens shown
    have filled : tokens ≠ [] := by
      rcases shown with ⟨head, second, params, groups, reference, words, rfl, _⟩
      simp
    exact ⟨filled, shown.returning, shown.readElement_eq keeps⟩

/-- A definition with the column between others. -/
def definition (name : Text) (before : List Entry) (actions : List Action)
    (behind : List Entry) : Text :=
  entryText name (before ++ c.entry actions :: behind) id

def key : Text :=
  Text.lower (c.readName unifyTypes)

/-- What is declared in front of the column has other names. -/
def IsNew (before : List Entry) : Prop :=
  c.key ∉ (Draft.ofElements (before.map fun entry => entry.element unifyTypes)).columnKeys

/-- A definition with the column is read as the draft without actions, with the default
value that the actions make. -/
theorem exists_draft {name : Text} (identifier : Name.IsIdentifier name) {before : List Entry}
    (isNew : c.IsNew before) (behind : List Entry) (index : Int) :
    exists d :
    Draft, ((c.reading unifyTypes []).column, (c.reading unifyTypes []).counts) ∈ d.columns ∧
      d.withDefault c.key (c.storedDefault unifyTypes []) = d ∧
      forall actions, ofText (c.definition name before actions behind) index =
        .ok ((d.withDefault c.key (c.storedDefault unifyTypes actions)).entity
          ⟨none, name⟩ index) := by
  have absent : (c.reading unifyTypes []).column.key ∉
      (Draft.ofElements (before.map fun entry => entry.element unifyTypes)).columnKeys := isNew
  have drafted : forall actions, Draft.ofElements
      ((before ++ c.entry actions :: behind).map fun e => e.element unifyTypes) =
      (Draft.ofElements ((before ++ c.entry [] :: behind).map fun e =>
        e.element unifyTypes)).withDefault c.key
        (c.storedDefault unifyTypes actions) := by
    intro actions
    rw [List.map_append, List.map_append, List.map_cons, List.map_cons]
    exact Draft.ofElements_withDefault (c.storedDefault unifyTypes actions) rfl absent _
  refine ⟨Draft.ofElements ((before ++ c.entry [] :: behind).map fun e => e.element unifyTypes), ?_,
    (drafted []).symm, ?_⟩
  · rw [List.map_append, List.map_cons]
    exact Draft.mem_columns_ofElements absent _
  · intro actions
    have present : (c.reading unifyTypes actions).column.key ∉
      (Draft.ofElements (before.map fun entry => entry.element unifyTypes)).columnKeys := isNew
    have declares :
        (Draft.ofElements ((before ++ c.entry actions :: behind).map fun e =>
          e.element unifyTypes)).columns ≠ [] := by
      rw [List.map_append, List.map_cons]
      exact List.ne_nil_of_mem (Draft.mem_columns_ofElements present _)
    rw [definition, ofText_entryText identifier (by simp) declares, drafted]

/-- Actions change the default value of their column and nothing else, and they change it only
where `SET DEFAULT` is among them: then the value is what the words behind it spell. -/
theorem actions_change_default_only {name : Text} (identifier : Name.IsIdentifier name)
    {before : List Entry} (isNew : c.IsNew before) (actions : List Action) (behind : List Entry)
    (index : Int) : exists e : Entity,
      ofText (c.definition name before [] behind) index = .ok e ∧
      (exists column, column ∈ e.columns ∧ column.key = c.key ∧
        column.default = c.storedDefault unifyTypes []) ∧
      ofText (c.definition name before actions behind) index =
        .ok (e.withDefault c.key (c.storedDefault unifyTypes actions)) ∧
      ((forall a, a ∈ actions -> a.reaction ≠ .setDefault) ->
        ofText (c.definition name before actions behind) index = .ok e) := by
  rcases c.exists_draft identifier isNew behind index with ⟨d, member, settled, read⟩
  have plain : ofText (c.definition name before [] behind) index =
      .ok (d.entity ⟨none, name⟩ index) := by
    rw [read, settled]
  refine ⟨d.entity ⟨none, name⟩ index, plain, ?_, ?_, ?_⟩
  · have columns := Draft.map_columns_entity
      (f := fun column : Column => (column.key, column.default)) (fun _ _ => rfl)
      (fun _ => rfl) d ⟨none, name⟩ index
    have listed := List.mem_map_of_mem
      (f := fun entry : Column × Bool => (entry.1.key, entry.1.default)) member
    rw [← columns] at listed
    rcases List.mem_map.mp listed with ⟨column, inTable, same⟩
    exact ⟨column, inTable, congrArg Prod.fst same, congrArg Prod.snd same⟩
  · rw [read, Draft.entity_withDefault]
  · intro kept
    have stored : c.storedDefault unifyTypes actions = c.storedDefault unifyTypes [] := by
      rw [storedDefault, defaultAfter_of_forall kept]
      rfl
    rw [read, stored, settled]

end ReferringColumn

/-- A column with a default value and a reference. -/
def ownerColumn : ReferringColumn where
  name := "owner"
  base := "INT"
  known := int_mem_typeNames
  params := []
  traits :=
    [.preset (.literal (.ofDigits "5" (by decide) (List.all_iff_forall_prop.mp (by decide))
      (List.all_iff_forall_prop.mp (by decide))))]
  distinct := by simp
  table := "user"
  column := "id"

theorem owner_default_lost : exists e : Entity,
    ofText ("CREATE TABLE \x60pet\x60 (".toList ++
        "\x60owner\x60 INT DEFAULT 5 REFERENCES \x60user\x60(\x60id\x60))".toList) 0 = .ok e ∧
      (exists column, column ∈ e.columns ∧ column.key = "owner".toList ∧
        column.default = some "'5'".toList) ∧
      ofText ("CREATE TABLE \x60pet\x60 (".toList ++
          "\x60owner\x60 INT DEFAULT 5 REFERENCES \x60user\x60(\x60id\x60)".toList ++
          " ON DELETE SET DEFAULT)".toList) 0 =
        .ok (e.withDefault "owner".toList none) := by
  have identifier : Name.IsIdentifier "pet".toList :=
    Name.isIdentifier_of_checked (by decide) (by decide)
  have isNew : ownerColumn.IsNew [] := List.not_mem_nil
  have key : ownerColumn.key = "owner".toList := by decide +kernel
  have before : ownerColumn.storedDefault unifyTypes [] = some "'5'".toList := by decide +kernel
  have behind : ownerColumn.storedDefault unifyTypes [⟨.delete, .setDefault⟩] = none := by
    decide +kernel
  rcases ownerColumn.actions_change_default_only identifier isNew [⟨.delete, .setDefault⟩] [] 0 with
    ⟨e, plain, set, reset, _⟩
  rw [key, before] at set
  rw [key, behind] at reset
  exact ⟨e, plain, set, reset⟩

end Table
end SchemaAtlas
