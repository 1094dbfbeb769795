import SchemaAtlas.Proofs.Table.Body
import SchemaAtlas.Proofs.Table.Trait

namespace SchemaAtlas
namespace Table

open Token Dialect

/-!
Definitions that are put together from columns with traits and from keys.

An entry is an element of a body as it is written, with its literals as they are or after a
treatment.  It carries the facts on which reading depends: it begins no type of several words, its
tokens stay together, and they are read as its element.  A definition that is written from entries
is read as the draft of their elements.
-/

/-! Types with parameters. -/

/-- The type with its parameters, if there are any, in parentheses. -/
def typeFrame (base : Text) (params : List Lit) (g : Text -> Text) : Text :=
  match params with
  | [] => base
  | _ => base ++ '(' :: (Text.join [','] (params.map fun l => l.frame g) ++ [')'])

def paramForms (params : List Lit) (g : Text -> Text) : List Form :=
  match params with
  | [] => []
  | _ =>
      (.openParen, ['(']) :: [commaForm].intercalate
        (params.map fun l => l.forms g) ++ [(.closeParen, [')'])]

theorem isItem_type {base : Text} (known : base ∈ typeNames) (params : List Lit) :
    Frame.IsItem (typeFrame base params) := by
  have checked :
      (typeNames.all fun base => opens base && base.all fun c => !Text.isBlank c && c != '(') =
        true := by
    decide +kernel
  have name := Frame.isItem_of_checked (List.all_eq_true.mp checked base known)
  cases params with
  | nil => exact name
  | cons first params =>
      have inside : Frame.IsItem fun g =>
          Text.join [','] ((first :: params).map fun l => l.frame g) :=
        Frame.isItem_join (by simp) (fun l _ => l.isItem) (by simp)
      exact name.grouped inside

theorem segment_type {g : Text -> Text} (keeps : KeepsPlain g) {base : Text}
    (known : base ∈ typeNames) (params : List Lit) :
    Segment (typeFrame base params g) ((.typeName, base) :: paramForms params g) := by
  have bare : (typeNames.all isBareWord) = true := by decide +kernel
  have kind : wordKind base = .typeName := by rw [wordKind, isTypeName_of_known known, if_pos rfl]
  have name := segment_word (List.all_eq_true.mp bare base known)
  rw [kind] at name
  cases params with
  | nil => exact name
  | cons first params =>
      have each : forall item, item ∈ (first :: params).map (fun l => (l.frame g, l.forms g)) ->
          Segment item.1 item.2 := by
        intro item member
        rcases List.mem_map.mp member with ⟨l, _, rfl⟩
        exact l.segment keeps
      have joined := segment_join (by decide) (reads_mark (',', .comma) (by decide)) each
      rw [List.map_map, List.map_map] at joined
      exact name.append (broken_cons (by decide) _) (segment_parens joined)

/-- The tokens of a literal are neither commas nor parentheses. -/
theorem Lit.flat_forms (l : Lit) (g : Text -> Text) : Flat (l.forms g) := by
  intro f member
  cases l with
  | number sign digits signed isNumber ascii =>
      rcases List.mem_append.mp member with inSign | inNumber
      · rcases List.mem_map.mp inSign with ⟨c, _, rfl⟩
        simp
      · rw [List.mem_singleton.mp inNumber]
        simp
  | quoted t plain =>
      rw [List.mem_singleton.mp member]
      simp

theorem Lit.forms_ne_nil (l : Lit) (g : Text -> Text) : l.forms g ≠ [] := by
  cases l with
  | number sign digits signed isNumber ascii => simp [forms]
  | quoted t plain => simp [forms]

theorem grouped_params (params : List Lit) (g : Text -> Text) :
    Grouped (params.map fun l => l.forms g) := by
  constructor
  · intro list member
    rcases List.mem_map.mp member with ⟨l, _, rfl⟩
    exact l.forms_ne_nil g
  · intro list member
    rcases List.mem_map.mp member with ⟨l, _, rfl⟩
    have level := (l.flat_forms g).returns_append 0 []
    rw [List.append_nil] at level
    rw [level]
    rfl

/-- What a parameter stands for in a list of values. -/
def formsValue (forms : List Form) : Text :=
  match forms with
  | [f] => Literal.unquote f.2
  | fs => fs.flatMap Prod.snd

/-- The length and the values that the parameters of a type mean. -/
def paramSize (base : Text) (params : List Lit) (g : Text -> Text) :
    Option Text × Option (List Text) :=
  match params with
  | [] => (none, none)
  | _ =>
    if TypeText.isValueList base then (none, some (params.map fun l => formsValue (l.forms g)))
    else
      match ([commaForm].intercalate (params.map fun l => l.forms g)).flatMap Prod.snd with
      | [] => (none, none)
      | d :: ds => (some (d :: ds), if isPrecise base then some (numericParams (d :: ds)) else none)

theorem enumValues_of_params {params : List Lit} {g : Text -> Text} {tokens : List Token}
    (formed : tokens.map form = [commaForm].intercalate (params.map fun l => l.forms g)) :
    enumValues tokens = params.map fun l => formsValue (l.forms g) := by
  refine map_of_forms (groups_of_forms (grouped_params params g) formed) ?_
  intro l _ group formedGroup
  rw [← formedGroup]
  rcases group with _ | ⟨t, _ | ⟨u, others⟩⟩
  · rfl
  · rfl
  · simp only [formsValue, List.map_cons, List.flatMap_cons, List.flatMap_map]
    rfl

/-- The parameters of a type are read as its length and its values. -/
theorem exists_typeParams (base : Text) {params : List Lit} {g : Text -> Text}
    {tokens rest : List Token} (formed : tokens.map form = paramForms params g)
    (unopened : forall t, rest.head? = some t -> t.kind ≠ .openParen) :
    exists found, typeParams (tokens ++ rest) = (found, rest) ∧
      sizeAndValues base found = paramSize base params g := by
  cases params with
  | nil =>
      obtain rfl : tokens = [] := List.map_eq_nil_iff.mp formed
      refine ⟨none, ?_, rfl⟩
      cases rest with
      | nil => rfl
      | cons t others => simp [typeParams, unopened t rfl]
  | cons first params =>
      rcases List.map_eq_cons_iff.mp formed with ⟨opening, others, rfl, opens, formedOthers⟩
      rcases List.map_eq_append_iff.mp formedOthers with
        ⟨inside, last, rfl, formedInside, formedLast⟩
      rcases List.map_eq_singleton_iff.mp formedLast with ⟨closing, rfl, closes⟩
      have found := parens_of_forms (grouped_params (first :: params) g) formedInside
        (kind_of_form closes) rest
      have spelled : inside.flatMap value =
          ([commaForm].intercalate ((first :: params).map fun l => l.forms g)).flatMap
            Prod.snd := by
        rw [← formedInside, List.flatMap_map]
        rfl
      refine ⟨some inside, ?_, ?_⟩
      · simp [typeParams, kind_of_form opens, found]
      · cases length : ([commaForm].intercalate ((first :: params).map fun l => l.forms g)).flatMap
            Prod.snd with
        | nil =>
            simp only [sizeAndValues, paramSize, enumValues_of_params formedInside, spelled, length]
        | cons d ds =>
            simp only [sizeAndValues, paramSize, enumValues_of_params formedInside, spelled, length]

/-! Entries. -/

/-- An element of a body as it is written, and what it is read as. -/
structure Entry where
  frame : Frame
  element : (Text -> Text) -> Element
  isItem : frame.IsItem
  gives : forall g, KeepsPlain g -> Gives (frame g) fun body tokens =>
    tokens ≠ [] ∧ returns 0 (tokens.map kind) = true ∧ readElement body tokens = element g

theorem int_mem_typeNames : "INT".toList ∈ typeNames := by
  decide

/-- A column of a plan: its name, its type, its traits in any order, and whether
it is part of the key. -/
structure ColumnPlan where
  name : Text
  named : Name.IsIdentifier name
  base : Text
  known : base ∈ typeNames
  params : List Lit
  traits : List Trait
  distinct : (traits.map Trait.slot).Nodup
  unkeyed : Trait.key ∉ traits
  inKey : Bool

namespace ColumnPlan

variable (c : ColumnPlan)

/-- The column with its traits in a certain order. -/
def frame (order : List Trait) (g : Text -> Text) : Text :=
  quoteColumn .mysql c.name ++
    ' ' :: (typeFrame c.base c.params g ++ order.flatMap fun trait => ' ' :: trait.frame g)

theorem isItem (order : List Trait) : Frame.IsItem (c.frame order) := by
  rcases Frame.spaced_items (fun trait (_ : trait ∈ order) => trait.isItem) with ⟨kept, leads⟩
  exact Frame.IsItem.pair (isItem_name c.named) ((isItem_type c.known c.params).append leads kept)

/-- The column that the attributes make, before keys and counting are settled. -/
def reading (g : Text -> Text) (a : Attributes) : ColumnReading where
  column := Column.settled
    { name := c.name
      baseType := c.base
      length := (paramSize c.base c.params g).1
      nullable := a.nullable
      default := Default.normal? a.default c.base (paramSize c.base c.params g).1
      primaryKey := a.inlineKey
      autoIncrement := false
      enumValues := (paramSize c.base c.params g).2
      comment := a.comment }
  counts := a.autoIncrement
  references := a.references

/-- The attributes before any trait is read. -/
def start : Attributes :=
  ⟨true, false, serialTypes.contains c.base, none, none, []⟩

def attributes (g : Text -> Text) (traits : List Trait) : Attributes :=
  traits.foldl (Trait.addTo g c.name) c.start

end ColumnPlan

theorem Trait.returns_forms (trait : Trait) (g : Text -> Text) (rest : List TokenKind) :
    returns 0 ((trait.forms g).map Prod.fst ++ rest) = returns 0 rest := by
  cases trait with
  | required => rfl
  | key => rfl
  | counting => rfl
  | unique => rfl
  | preset p =>
      have flat : Flat ((Trait.preset p).forms g) := by
        intro f member
        rcases List.mem_cons.mp member with rfl | inValue
        · simp
        · cases p with
          | literal l => exact l.flat_forms g f inValue
          | null => simp [List.mem_singleton.mp inValue]
          | now => simp [List.mem_singleton.mp inValue]
      exact flat.returns_append 0 rest
  | remark t plain => rfl
  | refers table column tableNamed columnNamed => rfl

theorem Trait.returns_flatMap (order : List Trait) (g : Text -> Text) (rest : List TokenKind) :
    returns 0 ((order.flatMap fun trait => trait.forms g).map Prod.fst ++ rest) =
      returns 0 rest := by
  induction order with
  | nil => rfl
  | cons trait order ih =>
      rw [List.flatMap_cons, List.map_append, List.append_assoc, trait.returns_forms, ih]

theorem returns_paramForms (params : List Lit) (g : Text -> Text) (rest : List TokenKind) :
    returns 0 ((paramForms params g).map Prod.fst ++ rest) = returns 0 rest := by
  have flat : forall list, list ∈ params.map (fun l => l.forms g) -> Flat list := by
    intro list member
    rcases List.mem_map.mp member with ⟨l, _, rfl⟩
    exact l.flat_forms g
  have skipped := returns_parens flat rest
  cases params with
  | nil => rfl
  | cons first params => simpa [paramForms] using skipped

namespace ColumnPlan

variable (c : ColumnPlan) {g : Text -> Text}

/-- The tokens of a column: its name, its type, and its traits group by group. -/
def Shown (g : Text -> Text) (order : List Trait) (body : Text) (tokens : List Token) : Prop :=
  exists head second params groups, tokens = head :: second :: (params ++ groups.flatten) ∧
    head.form = (.quotedIdentifier, quoteColumn .mysql c.name) ∧ second.form = (.typeName, c.base) ∧
    params.map form = paramForms c.params g ∧ Trait.AllShown g body order groups

theorem gives_shown (keeps : KeepsPlain g) (order : List Trait) :
    Gives (c.frame order g) fun body tokens => c.Shown g order body tokens := by
  have front := (segment_pair (segment_name c.named) (segment_type keeps c.known c.params)).gives
  have traits := gives_spaced fun trait (_ : trait ∈ order) => trait.gives keeps
  have text : c.frame order g = quoteColumn .mysql c.name ++ ' ' :: typeFrame c.base c.params g ++
      order.flatMap fun trait => ' ' :: trait.frame g := by
    rw [frame, List.append_assoc, List.cons_append]
  rw [text]
  refine (front.append (broken_spaced _ order) traits).imp ?_
  rintro body tokens ⟨first, behind, rfl, formed, groups, shown, rfl⟩
  rcases List.map_eq_cons_iff.mp formed with ⟨head, others, rfl, formedHead, formedOthers⟩
  rcases List.map_eq_cons_iff.mp formedOthers with ⟨second, params, rfl, formedSecond, formedParams⟩
  exact ⟨head, second, params, groups, rfl, formedHead, formedSecond, formedParams, shown⟩

variable {c} {order : List Trait} {body : Text} {tokens : List Token}

theorem Shown.returning (shown : c.Shown g order body tokens) :
    returns 0 (tokens.map kind) = true := by
  rcases shown with ⟨head, second, params, groups, rfl, formedHead, formedSecond,
    formedParams, traits⟩
  have behind := Trait.returns_flatMap order g []
  rw [List.append_nil] at behind
  have inside := returns_paramForms c.params g
    ((order.flatMap fun trait => trait.forms g).map Prod.fst)
  rw [behind, ← formedParams, ← Trait.forms_of_allShown traits, List.map_map,
    List.map_map, ← List.map_append] at inside
  rw [List.map_cons, List.map_cons, kind_of_form formedHead, kind_of_form formedSecond]
  exact inside

/-- The column is read with the attributes that its traits make. -/
theorem Shown.readElement_eq (shown : c.Shown g order body tokens) (keeps : KeepsPlain g)
    (distinct : (order.map Trait.slot).Nodup) :
    readElement body tokens = .column (c.reading g (c.attributes g order)) := by
  rcases shown with ⟨head, second, params, groups, rfl, formedHead, formedSecond,
    formedParams, traits⟩
  rcases readElement_of_known c.known formedHead formedSecond body (params ++ groups.flatten) with
    ⟨declared, name, base⟩
  have unopened : forall t, (groups.flatten ++ []).head? = some t -> t.kind ≠ .openParen :=
    Trait.unopened_of_allShown traits (by simp)
  rw [List.append_nil] at unopened
  rcases exists_typeParams c.base formedParams unopened with ⟨inside, found, sized⟩
  have attributes := Trait.readAttributes_eq_foldl keeps traits distinct c.name c.start
  rw [declared]
  simp only [readColumn, name, base, found, sized]
  rw [start] at attributes
  rw [attributes]
  rfl

end ColumnPlan

namespace Entry

def column (c : ColumnPlan) (order : List Trait) (distinct : (order.map Trait.slot).Nodup) :
    Entry where
  frame := c.frame order
  element g := .column (c.reading g (c.attributes g order))
  isItem := c.isItem order
  gives g keeps := by
    refine (c.gives_shown keeps order).imp ?_
    intro body tokens shown
    have filled : tokens ≠ [] := by
      rcases shown with ⟨head, second, params, groups, rfl, _⟩
      simp
    exact ⟨filled, shown.returning, shown.readElement_eq keeps distinct⟩

end Entry

/-! Keys. -/

/-- The name of a key, in backticks or without. -/
inductive Label where
  | bare (name : Text) (identifier : Name.IsIdentifier name)
  | quoted (name : Text) (identifier : Name.IsIdentifier name)

namespace Label

def text : Label -> Text
  | .bare name _ => name
  | .quoted name _ => quoteColumn .mysql name

def form : Label -> Form
  | .bare name _ => (wordKind name, name)
  | .quoted name _ => (.quotedIdentifier, quoteColumn .mysql name)

theorem segment (label : Label) : Segment label.text [label.form] := by
  cases label with
  | bare name identifier => exact segment_word (isBareWord_of_isIdentifier identifier)
  | quoted name identifier => exact segment_name identifier

theorem form_flat (label : Label) : Flat [label.form] := by
  intro f member
  rw [List.mem_singleton.mp member]
  cases label with
  | bare name identifier =>
      simp only [form, wordKind]
      split
      · simp
      · split
        · simp
        · simp
  | quoted name identifier => simp [form]

end Label

def plainKey (names : List Text) : Text :=
  "PRIMARY KEY (".toList ++ (Text.join ", ".toList (names.map (quoteColumn .mysql)) ++ [')'])

def keyElement (label : Option Label) (names : List Text) : Text :=
  match label with
  | none => plainKey names
  | some l => "CONSTRAINT ".toList ++ (l.text ++ ' ' :: plainKey names)

def keyElementForms (label : Option Label) (names : List Text) : List Form :=
  match label with
  | none => keyForms names
  | some l => (.keyword, "CONSTRAINT".toList) :: l.form :: keyForms names

section Keys

variable {names : List Text} (identifiers : forall name, name ∈ names -> Name.IsIdentifier name)

include identifiers

theorem isItem_plainKey : Frame.IsItem fun _ => plainKey names := by
  let inside : Frame := fun _ => Text.join ", ".toList (names.map (quoteColumn .mysql))
  have framed : inside.Kept ∧ Frame.Limited fun g => inside g ++ [')'] := by
    cases names with
    | nil => exact ⟨Frame.kept_nil, Frame.limited_closing⟩
    | cons first names =>
        have each : forall name : Text, name ∈ first :: names ->
            Frame.IsItem fun _ => quoteColumn .mysql name :=
          fun name member => isItem_name (identifiers name member)
        have item := Frame.isItem_join (by simp) each (by simp : [' '] ∈ [[], [' ']])
        exact ⟨item.kept, item.limited fun _ => [')']⟩
  have words := Frame.IsItem.pair (isItem_fixed "PRIMARY".toList (by decide))
    (isItem_fixed "KEY".toList (by decide))
  exact words.append (Frame.leads_parens framed.2).2 (Frame.kept_parens framed.1 framed.2).2

theorem isItem_keyElement (label : Option Label) :
    Frame.IsItem fun _ => keyElement label names := by
  have key := isItem_plainKey identifiers
  cases label with
  | none => exact key
  | some l =>
      cases l with
      | bare name identifier =>
          exact Frame.isItem_label (solid_identifier identifier) identifier.ne_nil key.spaced
      | quoted name identifier =>
          exact Frame.IsItem.pair (isItem_fixed "CONSTRAINT".toList (by decide))
            (Frame.IsItem.pair (isItem_name identifier) key)

theorem segment_plainKey : Segment (plainKey names) (keyForms names) :=
  segment_pair (segment_reserved "PRIMARY".toList (by decide))
    (segment_pair (segment_reserved "KEY".toList (by decide)) (segment_keyNames identifiers))

theorem segment_keyElement (label : Option Label) :
    Segment (keyElement label names) (keyElementForms label names) := by
  have key := segment_plainKey identifiers
  cases label with
  | none => exact key
  | some l =>
      have word := segment_reserved "CONSTRAINT".toList (by decide)
      exact segment_pair word (segment_pair l.segment key)

end Keys

theorem returns_keyElementForms (label : Option Label) (names : List Text) :
    returns 0 ((keyElementForms label names).map Prod.fst) = true := by
  cases label with
  | none => exact returns_keyForms names
  | some l =>
      have skipped := l.form_flat.returns_append 0 ((keyForms names).map Prod.fst)
      exact skipped.trans (returns_keyForms names)

theorem readElement_keyElement {label : Option Label} {names : List Text} {group : List Token}
    (formed : group.map form = keyElementForms label names) (body : Text) :
    readElement body group = .primaryKey names := by
  cases label with
  | none => exact readElement_key formed body
  | some l =>
      rcases List.map_eq_cons_iff.mp formed with ⟨word, others, rfl, formedWord, formedOthers⟩
      rcases List.map_eq_cons_iff.mp formedOthers with ⟨labelling, key, rfl, _, formedKey⟩
      rcases readConstraint_key formedKey with ⟨constraint, first⟩
      have upper : word.upper = "CONSTRAINT".toList := by
        rw [Token.upper, value_of_form formedWord]
        decide
      have noColumn : isColumn word labelling key = false := by simp [isColumn, upper, neverColumns]
      have long : 2 < (word :: labelling :: key).length := by
        cases key with
        | nil => cases first
        | cons head rest =>
            simp only [List.length_cons]
            omega
      rw [readElement, noColumn, if_neg (by decide), readOther, upper, beq_self_eq_true,
        decide_eq_true long]
      exact constraint

def Entry.key (label : Option Label) {names : List Text}
    (identifiers : forall name, name ∈ names -> Name.IsIdentifier name) : Entry where
  frame := fun _ => keyElement label names
  element := fun _ => .primaryKey names
  isItem := isItem_keyElement identifiers label
  gives g _ := by
    have filled : keyElementForms label names ≠ [] := by
      cases label with
      | none => exact List.cons_ne_nil _ _
      | some l => exact List.cons_ne_nil _ _
    exact gives_element (segment_keyElement identifiers label) filled
      (returns_keyElementForms label names)
      fun body group formed => readElement_keyElement formed body

/-! Definitions. -/

def entryBody (entries : List Entry) (g : Text -> Text) : Text :=
  '(' :: Text.join ", ".toList (entries.map fun entry => entry.frame g) ++ [')']

def entryText (name : Text) (entries : List Entry) (g : Text -> Text) : Text :=
  "CREATE TABLE ".toList ++ (quoteTable .mysql name ++ ' ' :: entryBody entries g)

section Definitions

variable {entries : List Entry} (nonempty : entries ≠ [])

include nonempty

/-- Only the literals of a definition are touched when its types are unified. -/
theorem unifyTypes_entryText {name : Text} (identifier : Name.IsIdentifier name) :
    unifyTypes (entryText name entries id) = entryText name entries unifyTypes := by
  have inside := Frame.isItem_join nonempty (fun entry _ => entry.isItem)
    (by simp : [' '] ∈ [[], [' ']])
  have words := Frame.IsItem.pair (isItem_fixed "CREATE".toList (by decide))
    (isItem_fixed "TABLE".toList (by decide))
  exact unifyTypes_frame (words.pair ((isItem_name identifier).groupedApart inside)).kept

/-- A body is read as the elements of its entries. -/
theorem elements_entryBody {g : Text -> Text} (keeps : KeepsPlain g) :
    elements (entryBody entries g) = entries.map fun entry => entry.element g := by
  have space : forall c, c ∈ [' '] -> Text.isBlank c = true := by
    intro c member
    rw [List.mem_singleton.mp member]
    decide
  exact elements_of_gives space nonempty (fun entry _ => entry.gives g keeps) []

end Definitions

theorem header?_entryText {name : Text} (identifier : Name.IsIdentifier name) (entries : List Entry)
    (g : Text -> Text) :
    header? (entryText name entries g) = some (quoteTable .mysql name, entryBody entries g) :=
  header?_of_condition identifier (Text.fails_at_head '\x60' _ (by decide))
    (Phrase.prefers_optional_absent (unlessExists_eq_nil (by decide) _))

theorem keepsPlain_unifyTypes : KeepsPlain unifyTypes :=
  fun _ plain => not_mem_unifyTypes plain

/-- A definition that is written from entries is read as the draft of their elements. -/
theorem ofText_entryText {name : Text} (identifier : Name.IsIdentifier name) {entries : List Entry}
    (nonempty : entries ≠ [])
    (declares : (Draft.ofElements (entries.map fun entry => entry.element unifyTypes)).columns ≠ [])
    (index : Int) : ofText (entryText name entries id) index =
      .ok ((Draft.ofElements (entries.map fun entry => entry.element unifyTypes)).entity
        ⟨none, name⟩ index) := by
  have found : header? (unifyTypes (entryText name entries id)) =
      some (quoteTable .mysql name, entryBody entries unifyTypes) := by
    rw [unifyTypes_entryText nonempty identifier, header?_entryText identifier]
  rw [← elements_entryBody nonempty keepsPlain_unifyTypes] at declares ⊢
  exact ofText_of_header identifier found declares index

end Table
end SchemaAtlas
