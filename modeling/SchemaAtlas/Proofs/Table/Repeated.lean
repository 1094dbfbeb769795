import SchemaAtlas.Proofs.Table.Coherent
import SchemaAtlas.Proofs.Table.Entry
import SchemaAtlas.Proofs.Table.Relocated
import SchemaAtlas.Proofs.Token.Whole

namespace SchemaAtlas
namespace Table

open Token Dialect

/-!
Columns that are declared again.

The name of a column is compared with the names before it only when all of its attributes have been
read.  A column whose name is there already leaves nothing behind in the columns, the keys and the
counting of its table, but the references that it makes stay.  The elements of a body are any texts
that close what they open: such a text means the same in every body, so one of them can be taken
out, and the table is the same up to the references of that one.
-/

/-! Drafts apart from references. -/

def Element.references : Element -> List ForeignKey
  | .column r => r.references
  | .foreignKey key => key.toList
  | .primaryKey _ => []
  | .otherConstraint => []
  | .dropped _ => []

namespace Draft

theorem foreignKeys_add (d : Draft) (e : Element) :
    (d.add e).foreignKeys = d.foreignKeys ++ e.references := by
  cases e with
  | column r =>
      rw [add]
      split
      · rfl
      · rfl
  | primaryKey names => exact (List.append_nil _).symm
  | foreignKey key => rfl
  | otherConstraint => exact (List.append_nil _).symm
  | dropped text => exact (List.append_nil _).symm

theorem foreignKeys_foldl_add (elements : List Element) (d : Draft) :
    (elements.foldl add d).foreignKeys = d.foreignKeys ++ elements.flatMap Element.references := by
  induction elements generalizing d with
  | nil => exact (List.append_nil _).symm
  | cons e elements ih =>
      rw [List.foldl_cons, ih, foreignKeys_add, List.flatMap_cons, List.append_assoc]

theorem foreignKeys_ofElements (elements : List Element) :
    (ofElements elements).foreignKeys = elements.flatMap Element.references :=
  foreignKeys_foldl_add elements empty

/-- The draft without its references, and without the names that are repeated. -/
def bare (d : Draft) : Draft :=
  { d with foreignKeys := [], repeated := [] }

theorem bare_add (d : Draft) (e : Element) : (d.add e).bare = (d.bare.add e).bare := by
  cases e with
  | column r =>
      have taken : d.bare.hasColumn r.column.name = d.hasColumn r.column.name := rfl
      rw [add, add, taken]
      split
      · rfl
      · rfl
  | primaryKey names => rfl
  | foreignKey key => rfl
  | otherConstraint => rfl
  | dropped text => rfl

/-- What is added later depends on nothing that was left out. -/
theorem bare_foldl_add {d other : Draft} (same : d.bare = other.bare) (elements : List Element) :
    (elements.foldl add d).bare = (elements.foldl add other).bare := by
  induction elements generalizing d other with
  | nil => exact same
  | cons e elements ih =>
      apply ih
      rw [bare_add d, same, ← bare_add]

theorem bare_add_repeated {d : Draft} {r : ColumnReading} (taken : r.column.key ∈ d.columnKeys) :
    (d.add (.column r)).bare = d.bare := by
  have there : d.hasColumn r.column.name = true := by
    rw [hasColumn_eq]
    exact List.contains_iff_mem.mpr taken
  rw [add, if_pos there]
  rfl

theorem entity_of_bare {d other : Draft} (same : d.bare = other.bare) (name : QualifiedName)
    (index : Int) :
    d.entity name index = { other.entity name index with foreignKeys := d.foreignKeys } := by
  calc
    d.entity name index = { d.bare.entity name index with foreignKeys := d.foreignKeys } := rfl
    _ = { other.bare.entity name index with foreignKeys := d.foreignKeys } := by rw [same]
    _ = { other.entity name index with foreignKeys := d.foreignKeys } := rfl

/-- The key of a column that is added is among those of the draft. -/
theorem key_mem_columnKeys {elements : List Element} {r : ColumnReading}
    (listed : .column r ∈ elements) : r.column.key ∈ (ofElements elements).columnKeys := by
  rcases List.append_of_mem listed with ⟨front, behind, rfl⟩
  have here : r.column.key ∈ ((ofElements front).add (.column r)).columnKeys := by
    rcases columns_add (ofElements front) (.column r) with ⟨_, taken⟩ | ⟨other, equal, _, added⟩
    · exact columnKeys_subset_add _ _ (taken r rfl)
    · cases equal
      rw [columnKeys, added]
      simp
  rw [ofElements, List.foldl_append]
  exact List.map_subset _ (columns_subset_foldl_add behind _) here

theorem columns_ne_nil {elements : List Element} {r : ColumnReading}
    (listed : .column r ∈ elements) : (ofElements elements).columns ≠ [] := by
  intro none
  have member := key_mem_columnKeys listed
  rw [columnKeys, none] at member
  cases member

/-- A repeated column adds its references to the table, where it stands, and nothing else. -/
theorem entity_repeated {front : List Element} {r : ColumnReading}
    (taken : r.column.key ∈ (ofElements front).columnKeys) (behind : List Element)
    (name : QualifiedName) (index : Int) :
    (ofElements (front ++ .column r :: behind)).entity name index =
      { (ofElements (front ++ behind)).entity name index with
        foreignKeys := front.flatMap Element.references ++
          (r.references ++ behind.flatMap Element.references) } := by
  have same : (ofElements (front ++ .column r :: behind)).bare =
      (ofElements (front ++ behind)).bare := by
    rw [ofElements, ofElements, List.foldl_append, List.foldl_append, List.foldl_cons]
    exact bare_foldl_add (bare_add_repeated taken) behind
  rw [entity_of_bare same, foreignKeys_ofElements, List.flatMap_append, List.flatMap_cons]
  rfl

end Draft

/-- A column that spells no reference makes none. -/
theorem references_readElement {body : Text} {tokens : List Token} {r : ColumnReading}
    (read : readElement body tokens = .column r)
    (other : forall t, t ∈ tokens -> t.word ≠ "REFERENCES".toList) : r.references = [] := by
  rcases readElement_eq_column read with ⟨head, second, rest, rfl, _, rfl⟩
  apply references_readAttributes
  intro t member
  exact other t (List.mem_cons_of_mem head
    (List.mem_cons_of_mem second ((typeParams_suffix rest).subset member)))

/-! Elements as texts. -/

theorem keepsForms_back (position : Nat) : KeepsForms (back position) :=
  fun _ => rfl

/-- Between tokens of a text there is the same text in every other text that holds it. -/
theorem sameSpans_back {front t rest : Text} {tokens : List Token}
    (within : forall token, token ∈ tokens ->
      front.length ≤ token.place.position ∧ token.stop ≤ front.length + t.length) :
    SameSpans (back front.length) (front ++ (t ++ rest)) t tokens := by
  intro first inFirst last inLast
  rcases within first inFirst with ⟨begins, _⟩
  rcases within last inLast with ⟨later, ends⟩
  have stands : (back front.length last).stop = last.stop - front.length := by
    simp only [Token.stop, back]
    omega
  have cut : ((front ++ (t ++ rest)).take last.stop).drop front.length =
      t.take (last.stop - front.length) := by
    rw [List.drop_take, List.drop_left, List.take_append_of_le_length (by omega)]
  have distance : front.length + (first.place.position - front.length) =
    first.place.position := by omega
  rw [stands, ← cut, List.drop_drop]
  exact congrArg (fun n => ((front ++ (t ++ rest)).take last.stop).drop n) distance

/-- A whole text is read alike wherever it stands. -/
theorem gives_readElement {t : Text} (whole : Whole t) :
    Gives t fun body tokens => tokens.map kind = (ownTokens .start t).map kind ∧
      readElement body tokens = readElement t (ownTokens .start t) := by
  have kinds : forall position (tokens : List Token),
      (tokens.map (back position)).map kind = tokens.map kind := by
    intro position tokens
    rw [List.map_map]
    rfl
  refine whole.gives.imp ?_
  rintro body tokens ⟨front, rest, rfl, moved, within⟩
  have own : SameSpans (back 0) t t (ownTokens .start t) := fun first _ last _ => rfl
  constructor
  · rw [← kinds front.length, moved, kinds]
  · rw [← readElement_relocated (keepsForms_back front.length) (sameSpans_back within), moved,
      readElement_relocated (keepsForms_back 0) own]

/-- A text that can be an element of a body.  With its types written as single words it gives
tokens and leaves neither a literal nor a parenthesis open, and no type of several words goes on
from it through the parenthesis that ends the body. -/
structure IsElement (t : Text) : Prop where
  closed : forall tail, unifyTypes (t ++ ')' :: tail) = unifyTypes t ++ ')' :: unifyTypes tail
  whole : Whole (unifyTypes t)
  filled : ownTokens .start (unifyTypes t) ≠ []
  returning : returns 0 ((ownTokens .start (unifyTypes t)).map kind) = true

/-- What such a text means by itself. -/
def meaning (t : Text) : Element :=
  readElement (unifyTypes t) (ownTokens .start (unifyTypes t))

theorem IsElement.gives {t : Text} (element : IsElement t) :
    Gives (unifyTypes t) fun body group => group ≠ [] ∧ returns 0 (group.map kind) = true ∧
      readElement body group = meaning t := by
  refine (gives_readElement element.whole).imp ?_
  rintro body group ⟨kinds, read⟩
  refine ⟨?_, ?_, read⟩
  · rintro rfl
    exact element.filled (List.map_eq_nil_iff.mp kinds.symm)
  · rw [kinds]
    exact element.returning

/-- A header that is read as it is spelled, whatever stands in the parentheses behind it. -/
structure IsHeader (opening spelled : Text) : Prop where
  read : forall inside, header? (unifyTypes (opening ++ '(' :: inside)) =
    some (spelled, '(' :: unifyTypes inside)
  named : (QualifiedName.ofText spelled).table ≠ []

/-- The definition of a table with the elements and with something behind its body. -/
def listing (opening : Text) (elements : List Text) (tail : Text) : Text :=
  opening ++ '(' :: (Text.join [','] elements ++ ')' :: tail)

theorem isHeader_create {name : Text} (identifier : Name.IsIdentifier name) :
    IsHeader ("CREATE TABLE ".toList ++ (quoteTable .mysql name ++ [' ']))
      (quoteTable .mysql name) where
  read inside := by
    let front : Text := "CREATE TABLE ".toList ++ '\x60' :: name
    have words := Frame.IsItem.pair (isItem_fixed "CREATE".toList (by decide))
      (isItem_fixed "TABLE".toList (by decide))
    have whole : unifyTypes (front ++ ['\x60']) = front ++ ['\x60'] :=
      unifyTypes_frame (words.pair (isItem_name identifier)).kept
    have plain : unifyTypes front = front := by
      have none : unifyTypes [] = [] := unifyTypes_frame Frame.kept_nil
      rw [unifyTypes_append_barrier (by decide), none] at whole
      exact List.append_cancel_right whole
    have text : "CREATE TABLE ".toList ++ (quoteTable .mysql name ++ [' ']) ++ '(' :: inside =
        front ++ '\x60' :: (' ' :: '(' :: inside) := by
      simp [front, quoteTable]
    have behind : front ++ '\x60' :: (' ' :: '(' :: unifyTypes inside) =
        "CREATE TABLE ".toList ++ (quoteTable .mysql name ++ ' ' :: '(' :: unifyTypes inside) := by
      simp [front, quoteTable]
    rw [text, unifyTypes_append_barrier (by decide), plain, unifyTypes_group, behind]
    exact header?_of_condition identifier (Text.fails_at_head '\x60' _ (by decide))
      (Phrase.prefers_optional_absent (unlessExists_eq_nil (by decide) _))
  named := by
    have named : QualifiedName.ofText (quoteTable .mysql name) = ⟨none, name⟩ :=
      identifier.qualifiedName_backticks
    rw [named]
    exact identifier.ne_nil

theorem unifyTypes_join {elements : List Text} (nonempty : elements ≠ [])
    (each : forall t, t ∈ elements -> IsElement t) (tail : Text) :
    unifyTypes (Text.join [','] elements ++ ')' :: tail) =
      Text.join [','] (elements.map unifyTypes) ++ ')' :: unifyTypes tail := by
  induction elements with
  | nil => exact absurd rfl nonempty
  | cons t elements ih =>
      cases elements with
      | nil =>
          rw [Text.join_singleton, List.map_singleton, Text.join_singleton]
          exact (each t List.mem_cons_self).closed tail
      | cons next elements =>
          have later := ih (by simp) fun other member => each other (List.mem_cons_of_mem t member)
          have comma := unifyTypes_append_barrier (by decide : ',' ∈ barriers) t
            (Text.join [','] (next :: elements) ++ ')' :: tail)
          rw [later] at comma
          rw [List.map_cons, List.map_cons, Text.join_cons_cons,
            Text.join_cons_cons, ← List.map_cons]
          simpa only [List.append_assoc, List.cons_append, List.nil_append] using comma

/-- A definition is read as the draft of what its elements mean. -/
theorem ofText_listing {opening spelled : Text} (header : IsHeader opening spelled)
    {elements : List Text} (each : forall t, t ∈ elements -> IsElement t)
    (declares : (Draft.ofElements (elements.map meaning)).columns ≠ []) (tail : Text)
    (index : Int) : ofText (listing opening elements tail) index =
      .ok ((Draft.ofElements (elements.map meaning)).entity
        (QualifiedName.ofText spelled) index) := by
  have nonempty : elements ≠ [] := by
    rintro rfl
    exact declares rfl
  have found := header.read (Text.join [','] elements ++ ')' :: tail)
  rw [unifyTypes_join nonempty each] at found
  have blank : forall c, c ∈ [] -> Text.isBlank c = true := by simp
  have read := elements_of_gives blank nonempty
    (fun t member => (each t member).gives) (unifyTypes tail)
  rw [← read] at declares ⊢
  exact ofText_of_spelling rfl header.named found declares index

/-- A frame in front of the parenthesis that ends a body is unified by itself. -/
theorem unifyTypes_closing {w : Frame} (kept : w.Kept) (tail : Text) :
    unifyTypes (w id ++ ')' :: tail) = w unifyTypes ++ ')' :: unifyTypes tail := by
  refine @unifyTypes_of_keepsWords (fun g => w g ++ ')' :: g tail) ?_
  intro f g keeps
  have divides : Divides (')' :: g tail) := divides_mark (by decide) (by decide) _
  rw [kept f g _ keeps divides, keeps.divider divides]

/-- Entries of definitions are such elements, where they leave nothing open. -/
theorem isElement_entry {entry : Entry} (whole : Whole (entry.frame unifyTypes)) :
    IsElement (entry.frame id) ∧ meaning (entry.frame id) = entry.element unifyTypes := by
  have unified : unifyTypes (entry.frame id) = entry.frame unifyTypes :=
    unifyTypes_frame entry.isItem.kept
  rcases (entry.gives unifyTypes keepsPlain_unifyTypes).ownTokens with ⟨filled, returning, read⟩
  constructor
  · refine ⟨?_, ?_, ?_, ?_⟩
    · intro tail
      rw [unified]
      exact unifyTypes_closing entry.isItem.kept tail
    · rwa [unified]
    · rwa [unified]
    · rwa [unified]
  · rw [meaning, unified, read]

section Numbers

variable {name table column : Text} (named : Name.IsIdentifier name)
  (tableNamed : Name.IsIdentifier table) (columnNamed : Name.IsIdentifier column)

def numberPlan : ColumnPlan where
  name := name
  named := named
  base := "INT"
  known := int_mem_typeNames
  params := []
  traits := []
  distinct := List.nodup_nil
  unkeyed := List.not_mem_nil
  inKey := false

/-- A column of whole numbers that refers to a column of a table. -/
def referringPlan : ColumnPlan where
  name := name
  named := named
  base := "INT"
  known := int_mem_typeNames
  params := []
  traits := [.refers table column tableNamed columnNamed]
  distinct := List.nodup_singleton _
  unkeyed := fun member => nomatch List.mem_singleton.mp member
  inKey := false

/-- The entry of a plan with its traits in order. -/
def ColumnPlan.entry (c : ColumnPlan) : Entry :=
  .column c c.traits c.distinct

theorem isBareWord_int : isBareWord "INT".toList = true := by
  decide

theorem whole_numberPlan : Whole ((numberPlan named).entry.frame unifyTypes) :=
  (lexeme_name named).whole.pair (lexeme_word isBareWord_int).whole

theorem whole_referringPlan :
    Whole ((referringPlan named tableNamed columnNamed).entry.frame unifyTypes) := by
  have target := (lexeme_name tableNamed).whole.append (broken_cons (by decide) _)
    (lexeme_name columnNamed).whole.parens
  have reference :=
    (lexeme_word (by decide : isBareWord "REFERENCES".toList = true)).whole.pair target
  have whole := (lexeme_name named).whole.pair ((lexeme_word isBareWord_int).whole.pair reference)
  rw [← List.append_nil ("REFERENCES".toList ++ _)] at whole
  exact whole

end Numbers

/-! A column that comes twice. -/

/-- The references that some elements make, in order. -/
def referencesOf (elements : List Text) : List ForeignKey :=
  elements.flatMap fun t => (meaning t).references

theorem foreignKeys_meaning (elements : List Text) (name : QualifiedName) (index : Int) :
    ((Draft.ofElements (elements.map meaning)).entity name index).foreignKeys =
      referencesOf elements :=
  (Draft.foreignKeys_ofElements _).trans (List.flatMap_map meaning Element.references elements)

theorem entity_meaning_repeated {front : List Text} {t : Text} {r : ColumnReading}
    (repeats : meaning t = .column r)
    (taken : r.column.key ∈ (Draft.ofElements (front.map meaning)).columnKeys) (behind : List Text)
    (name : QualifiedName) (index : Int) :
    (Draft.ofElements ((front ++ t :: behind).map meaning)).entity name index =
      { (Draft.ofElements ((front ++ behind).map meaning)).entity name index with
        foreignKeys := referencesOf front ++ (r.references ++ referencesOf behind) } := by
  rw [List.map_append, List.map_cons, repeats, Draft.entity_repeated taken, List.flatMap_map,
    List.flatMap_map, ← List.map_append]
  rfl

/-- A column whose name is there already: with it the table is the same as without it, but for
the references that it makes.  So it is ignored completely exactly where it makes none, in
particular where it spells none. -/
theorem ofText_listing_repeated {opening spelled : Text} (header : IsHeader opening spelled)
    {front behind : List Text} {t u : Text}
    (each : forall element, element ∈ front ++ t :: behind -> IsElement element)
    {r first : ColumnReading} (repeats : meaning t = .column r) (earlier : u ∈ front)
    (declared : meaning u = .column first) (same : r.column.key = first.column.key) (tail : Text)
    (index : Int) : exists e, ofText (listing opening (front ++ behind) tail) index = .ok e ∧
      e.foreignKeys = referencesOf front ++ referencesOf behind ∧
      ofText (listing opening (front ++ t :: behind) tail) index =
        .ok { e with foreignKeys := referencesOf front ++ (r.references ++ referencesOf behind) } ∧
      (ofText (listing opening (front ++ t :: behind) tail) index =
        ofText (listing opening (front ++ behind) tail) index ↔
        r.references = []) ∧
      ((forall token, token ∈ ownTokens .start (unifyTypes t) ->
        token.word ≠ "REFERENCES".toList) ->
        r.references = []) := by
  let name := QualifiedName.ofText spelled
  have listed : .column first ∈ front.map meaning := declared ▸ List.mem_map_of_mem earlier
  have taken : r.column.key ∈ (Draft.ofElements (front.map meaning)).columnKeys :=
    same ▸ Draft.key_mem_columnKeys listed
  have declares : forall others, (Draft.ofElements ((front ++ others).map meaning)).columns ≠
      [] := by
    intro others
    rw [List.map_append]
    exact Draft.columns_ne_nil (List.mem_append_left _ listed)
  have fewer : forall element, element ∈ front ++ behind -> IsElement element :=
    fun element member =>
    each element (((List.sublist_cons_self t behind).append_left front).subset member)
  have without := ofText_listing header fewer (declares behind) tail index
  have whole := ofText_listing header each (declares (t :: behind)) tail index
  have keys : ((Draft.ofElements ((front ++ behind).map meaning)).entity name index).foreignKeys =
      referencesOf front ++ referencesOf behind :=
    (foreignKeys_meaning _ name index).trans List.flatMap_append
  rw [entity_meaning_repeated repeats taken] at whole
  refine ⟨_, without, keys, whole, ?_, references_readElement repeats⟩
  rw [whole, without]
  constructor
  · intro equal
    have longer : referencesOf front ++ (r.references ++ referencesOf behind) =
        referencesOf front ++ referencesOf behind :=
      (congrArg Entity.foreignKeys (Except.ok.inj equal)).trans keys
    exact List.append_left_eq_self.mp (List.append_cancel_left longer)
  · intro none
    rw [none, List.nil_append, ← keys]

theorem parent_declared_again : exists e : Entity,
    ofText "CREATE TABLE \x60node\x60 (\x60parent\x60 INT);" 0 = .ok e ∧ e.foreignKeys = [] ∧
      ofText ("CREATE TABLE \x60node\x60 (\x60parent\x60 INT,".toList ++
        "\x60Parent\x60 INT REFERENCES \x60node\x60(\x60id\x60));".toList) 0 =
          .ok { e with foreignKeys := [⟨["Parent".toList], "node".toList, ["id".toList]⟩] } := by
  have node : Name.IsIdentifier "node".toList :=
    Name.isIdentifier_of_checked (by decide) (by decide)
  have key : Name.IsIdentifier "id".toList := Name.isIdentifier_of_checked (by decide) (by decide)
  have parent : Name.IsIdentifier "parent".toList :=
    Name.isIdentifier_of_checked (by decide) (by decide)
  have inCapitals : Name.IsIdentifier "Parent".toList :=
    Name.isIdentifier_of_checked (by decide) (by decide)
  let first := numberPlan parent
  let again := referringPlan inCapitals node key
  rcases isElement_entry (whole_numberPlan parent) with ⟨isFirst, meansFirst⟩
  rcases isElement_entry (whole_referringPlan inCapitals node key) with ⟨isAgain, meansAgain⟩
  have each : forall element, element ∈ [first.entry.frame id] ++ [again.entry.frame id] ->
      IsElement element :=
    List.forall_mem_append.mpr ⟨List.forall_mem_singleton.mpr isFirst,
      List.forall_mem_singleton.mpr isAgain⟩
  have before : referencesOf [first.entry.frame id] = [] := by
    rw [referencesOf, List.flatMap_singleton, meansFirst]
    rfl
  have same : Text.lower "Parent".toList = Text.lower "parent".toList := by decide
  rcases ofText_listing_repeated
      (isHeader_create node) each meansAgain List.mem_cons_self meansFirst same [';'] 0 with
    ⟨e, plain, keys, repeated, _⟩
  rw [before] at keys repeated
  exact ⟨e, plain, keys, repeated⟩

end Table
end SchemaAtlas
