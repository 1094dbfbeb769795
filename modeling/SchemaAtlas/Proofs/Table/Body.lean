import SchemaAtlas.Proofs.Table.Clause
import SchemaAtlas.Proofs.Token.Placed

namespace SchemaAtlas
namespace Table

open Token Dialect

/-!
Bodies of written table definitions.

A clause carries its text, the tokens that the text gives, and the element that these tokens are
read as.  A body that is written from clauses is read as their elements, in order, whatever the
clauses are.
-/

/-- A written element of a body. -/
structure Clause where
  text : Text
  forms : List Form
  element : Element
  segment : Segment text forms
  filled : forms ≠ []
  returning : returns 0 (forms.map Prod.fst) = true
  read : forall (body : Text) (group : List Token), group.map form = forms ->
    readElement body group = element

namespace Clause

def column {c : Column} (portable : c.Portable) (required : c.KeyIsRequired) {w : Spelling}
    (stands : w.Stands) (apart : Bool) : Clause where
  text := Text.join [' '] ((columnItems w c apart).map Prod.fst)
  forms := columnForms w c apart
  element := .column (reread w c apart)
  segment := by
    rw [← flatten_columnItems]
    exact segment_spaced (segment_columnItems portable stands)
  filled := by simp [columnForms]
  returning := returns_columnForms w c apart
  read body group formed := readElement_column portable required stands formed body

/-- A key of several columns as a clause. -/
def key {names : List Text} (identifiers : forall name, name ∈ names -> Name.IsIdentifier name) :
    Clause where
  text := keyText names
  forms := keyForms names
  element := .primaryKey names
  segment := segment_key identifiers
  filled := by simp [keyForms]
  returning := returns_keyForms names
  read body group formed := readElement_key formed body

end Clause

/-- A body that is written from clauses, from its opening parenthesis on. -/
def bodyText (clauses : List Clause) : Text :=
  "(\n".toList ++ Text.join ",\n".toList (clauses.map fun clause => '\t' :: clause.text) ++
    "\n);".toList

theorem scan_bodyText (clauses : List Clause) : exists opening inside closing rest,
    scan (bodyText clauses) .keep = opening :: (inside ++ closing :: rest) ∧
      opening.kind = .openParen ∧
      inside.map form = [commaForm].intercalate (clauses.map Clause.forms) ∧
        closing.kind = .closeParen := by
  have newline : Text.isBlank '\n' = true := by decide
  have each : forall item, item ∈ clauses.map (fun clause => ('\t' :: clause.text, clause.forms)) ->
      Segment item.1 item.2 := by
    intro item member
    rcases List.mem_map.mp member with ⟨clause, _, rfl⟩
    exact clause.segment.blank_cons (by decide)
  have separates : forall rest, Reads [',', '\n'] [commaForm] rest := fun rest =>
    (reads_mark (',', .comma) (by decide) ('\n' :: rest)).append (reads_blank newline rest)
  have lines := segment_join (by decide) separates each
  have last : Segment ['\n'] [] := fun rest _ => reads_blank newline rest
  have inner := (lines.append (broken_cons (by decide) []) last).blank_cons newline
  rw [List.append_nil, List.map_map, List.map_map] at inner
  rcases segment_parens inner [';'] (broken_cons (by decide) []) Place.start with
    ⟨tokens, formed, scanned⟩
  rcases List.map_eq_cons_iff.mp formed with ⟨opening, others, rfl, opens, formedOthers⟩
  rcases List.map_eq_append_iff.mp formedOthers with
    ⟨inside, ending, rfl, formedInside, formedEnding⟩
  rcases List.map_eq_singleton_iff.mp formedEnding with ⟨closing, rfl, closes⟩
  rw [List.cons_append (a := opening), List.append_assoc inside] at scanned
  refine ⟨opening, inside, closing, _, Eq.trans ?_ scanned, kind_of_form opens, formedInside,
    kind_of_form closes⟩
  simp [scan, bodyText, Function.comp_def]

/-- The tokens of a body stand between its parentheses. -/
theorem bodyTokens_of_closing {opening closing : Token} {inside rest : List Token}
    (opens : opening.kind = .openParen)
    (offset : closingOffset? 1 (inside ++ closing :: rest) = some inside.length) :
    bodyTokens (opening :: (inside ++ closing :: rest)) = inside := by
  have index : closingIndex? (opening :: (inside ++ closing :: rest)) 0 =
      some (inside.length + 1) := by
    simp [closingIndex?, closingOffset?, nesting, opens, offset]
  simp [bodyTokens, index]

/-- Tokens of certain forms make an element, whatever body they stand in. -/
theorem gives_element {t : Text} {forms : List Form} {element : Element} (segment : Segment t forms)
    (filled : forms ≠ []) (returning : returns 0 (forms.map Prod.fst) = true)
    (read : forall (body : Text) (group : List Token),
      group.map form = forms -> readElement body group = element) :
    Gives t fun body group => group ≠ [] ∧ returns 0 (group.map kind) = true ∧
      readElement body group = element := by
  refine segment.gives.imp ?_
  intro body group formed
  refine ⟨?_, ?_, read body group formed⟩
  · rintro rfl
    exact filled formed.symm
  · rw [kinds_of_forms formed]
    exact returning

/-- The groups of a body against what they come from. -/
theorem elements_of_groups {α : Type} {element : α -> Element} {body : Text} {items : List α}
    {groups : List (List Token)}
    (held : List.Forall₂ (fun item group => group ≠ [] ∧ returns 0 (group.map kind) = true ∧
      readElement body group = element item) items groups) :
    (forall group, group ∈ groups -> (!group.isEmpty) = true ∧ returns 0 (group.map kind) = true) ∧
      groups.map (readElement body) = items.map element := by
  induction held with
  | nil => simp
  | @cons item group items groups here _ ih =>
      rcases here with ⟨filled, returning, read⟩
      refine ⟨List.forall_mem_cons.mpr ⟨⟨?_, returning⟩, ih.1⟩, ?_⟩
      · rw [List.isEmpty_eq_false_iff.mpr filled]
        rfl
      · rw [List.map_cons, List.map_cons, read, ih.2]

/-- A body of texts that are parted by commas is read text by text. -/
theorem elements_of_gives {α : Type} {text : α -> Text} {element : α -> Element} {items : List α}
    {padding : Text} (blank : forall c, c ∈ padding -> Text.isBlank c = true)
    (nonempty : items ≠ []) (each : forall item, item ∈ items -> Gives (text item) fun body group =>
      group ≠ [] ∧ returns 0 (group.map kind) = true ∧ readElement body group = element item)
        (tail : Text) :
    elements ('(' :: Text.join (',' :: padding) (items.map text) ++ ')' :: tail) =
      items.map element := by
  rcases (gives_join blank nonempty each).scan_parens tail with
    ⟨opening, inside, closing, rest, scanned, opens, ⟨groups, held, parted⟩, closes⟩
  rcases elements_of_groups held with ⟨each, read⟩
  have returning : forall group, group ∈ groups -> returns 0 (group.map kind) = true :=
    fun group member =>
    (each group member).2
  have offset := closingOffset?_of_parted parted returning closes rest
  have cut : Token.groups inside = groups := by
    rw [Token.groups, pieces_of_parted parted returning, List.filter_eq_self]
    exact fun group member => (each group member).1
  rw [elements, scanned, bodyTokens_of_closing opens offset, cut]
  exact read

/-- A body is read as the elements that its clauses mean. -/
theorem elements_bodyText (clauses : List Clause) :
    elements (bodyText clauses) = clauses.map Clause.element := by
  have grouped : Grouped (clauses.map Clause.forms) := by
    constructor
    · intro list member
      rcases List.mem_map.mp member with ⟨clause, _, rfl⟩
      exact clause.filled
    · intro list member
      rcases List.mem_map.mp member with ⟨clause, _, rfl⟩
      exact clause.returning
  rcases scan_bodyText clauses with ⟨opening, inside, closing, rest, scanned, opens, formed, closes⟩
  have offset := closingOffset?_of_forms grouped formed closes rest
  rw [elements, scanned, bodyTokens_of_closing opens offset]
  exact map_of_forms (groups_of_forms grouped formed) fun clause _ group formedGroup =>
    clause.read (bodyText clauses) group formedGroup

/-! Whole definitions. -/

/-- The definition of a table that is written from clauses. -/
def definitionText (name : Text) (clauses : List Clause) : Text :=
  "CREATE TABLE IF NOT EXISTS ".toList ++ (quoteTable .mysql name ++ (' ' :: bodyText clauses))

theorem temporary_eq_nil (rest : Text) : temporary ('T' :: 'A' :: rest) = [] := by
  have noGlobal : Phrase.keyword "global".toList ('T' :: 'A' :: rest) = [] :=
    Phrase.keyword_eq_nil (by decide) _ _
  have noLocal : Phrase.keyword "local".toList ('T' :: 'A' :: rest) = [] :=
    Phrase.keyword_eq_nil (by decide) _ _
  have noTemp : Phrase.letters "temp".toList ('T' :: 'A' :: rest) = [] := by
    have first : Text.sameLetter 't' 'T' = true := by decide
    change Phrase.letters ['t', 'e', 'm', 'p'] ('T' :: 'A' :: rest) = []
    rw [Phrase.letters, Phrase.bind_apply, Phrase.charWhere, if_pos first, List.flatMap_singleton]
    exact Phrase.letters_eq_nil (by decide) _ _
  have unqualified : Phrase.optional
      (Phrase.either (Phrase.keyword "global".toList) (Phrase.keyword "local".toList))
      ('T' :: 'A' :: rest) = [((), 'T' :: 'A' :: rest)] := by
    simp only [Phrase.optional, Phrase.either, noGlobal, noLocal, Phrase.give, List.nil_append]
  rw [temporary, Phrase.bind_apply, unqualified, List.flatMap_singleton, Phrase.bind_apply, noTemp]
  rfl

theorem unlessExists_eq_nil {c : Char} (differs : Text.sameLetter 'i' c = false) (rest : Text) :
    unlessExists (c :: rest) = [] := by
  have none : Phrase.keyword "if".toList (c :: rest) = [] := Phrase.keyword_eq_nil differs _ _
  rw [unlessExists, Phrase.bind_apply, none]
  rfl

/-- The header is found with the name as it is spelled, and the body begins with its parenthesis. -/
theorem header?_of_spelling {spelled before inner : Text}
    (bare : forall c, before.head? = some c -> Text.isBlank c = false)
    (condition : Phrase.Prefers (Phrase.optional unlessExists) before ()
      (spelled ++ ' ' :: '(' :: inner))
    (named : Phrase.Prefers Name.spelling (spelled ++ ' ' :: '(' :: inner) spelled
      (' ' :: '(' :: inner)) :
    header? ("CREATE TABLE ".toList ++ before) = some (spelled, '(' :: inner) := by
  have createWord : Phrase.Prefers (Phrase.keyword "create".toList)
      ("CREATE TABLE ".toList ++ before) ()
      ("TABLE ".toList ++ before) :=
    Phrase.prefers_of_singleton
      (Phrase.keyword_append "CREATE".toList (by decide) (Text.fails_at_head 'T' _ (by decide)))
  have permanent : temporary ("TABLE ".toList ++ before) = [] := temporary_eq_nil _
  have tableWord : Phrase.Prefers (Phrase.keyword "table".toList) ("TABLE ".toList ++ before)
      () before :=
    Phrase.prefers_of_singleton (Phrase.keyword_append "TABLE".toList (by decide) bare)
  have space : Phrase.Prefers Phrase.blanks (' ' :: '(' :: inner) () ('(' :: inner) :=
    Phrase.prefers_blanks_cons (by decide) (Text.fails_at_head '(' _ (by decide))
  have opening : Phrase.Prefers (Phrase.char '(') ('(' :: inner) () inner := rfl
  have whole : Phrase.Prefers headerForm ("CREATE TABLE ".toList ++ before) spelled inner :=
    Phrase.prefers_bind createWord
      (Phrase.prefers_bind (Phrase.prefers_optional_absent permanent)
        (Phrase.prefers_bind tableWord
          (Phrase.prefers_bind condition
            (Phrase.prefers_bind named
              (Phrase.prefers_bind space
                (Phrase.prefers_bind opening (Phrase.prefers_give _ inner)))))))
  rw [header?, Phrase.search?_of_prefers whole]
  rfl

theorem header?_of_condition {name : Text} (identifier : Name.IsIdentifier name)
    {before inner : Text} (bare : forall c, before.head? = some c -> Text.isBlank c = false)
    (condition : Phrase.Prefers (Phrase.optional unlessExists) before ()
      (quoteTable .mysql name ++ ' ' :: '(' :: inner)) :
    header? ("CREATE TABLE ".toList ++ before) = some (quoteTable .mysql name, '(' :: inner) :=
  header?_of_spelling bare condition (identifier.prefers_spelling_backticks rfl)

theorem header?_definitionText {name : Text} (identifier : Name.IsIdentifier name)
    (clauses : List Clause) :
    header? (definitionText name clauses) = some (quoteTable .mysql name, bodyText clauses) := by
  let behind : Text := quoteTable .mysql name ++ (' ' :: bodyText clauses)
  have ifWord : Phrase.Prefers (Phrase.keyword "if".toList) ("IF NOT EXISTS ".toList ++ behind) ()
      ("NOT EXISTS ".toList ++ behind) :=
    Phrase.prefers_of_singleton
      (Phrase.keyword_append "IF".toList (by decide) (Text.fails_at_head 'N' _ (by decide)))
  have notWord : Phrase.Prefers (Phrase.keyword "not".toList) ("NOT EXISTS ".toList ++ behind) ()
      ("EXISTS ".toList ++ behind) :=
    Phrase.prefers_of_singleton
      (Phrase.keyword_append "NOT".toList (by decide) (Text.fails_at_head 'E' _ (by decide)))
  have existsWord : Phrase.Prefers (Phrase.keyword "exists".toList) ("EXISTS ".toList ++ behind)
      () behind :=
    Phrase.prefers_of_singleton
      (Phrase.keyword_append "EXISTS".toList (by decide) (Text.fails_at_head '\x60' _ (by decide)))
  have condition : Phrase.Prefers (Phrase.optional unlessExists) ("IF NOT EXISTS ".toList ++ behind)
      () behind :=
    Phrase.prefers_either_left _
      (Phrase.prefers_bind ifWord (Phrase.prefers_bind notWord existsWord))
  exact header?_of_condition identifier (Text.fails_at_head 'I' _ (by decide)) condition

/-- The table of a definition whose header and body are known. -/
theorem ofText_of_spelling {t spelled body : Text} {name : QualifiedName}
    (qualified : QualifiedName.ofText spelled = name) (nonempty : name.table ≠ [])
    (found : header? (unifyTypes t) = some (spelled, body))
    (declares : (Draft.ofElements (elements body)).columns ≠ []) (index : Int) :
    ofText t index = .ok ((Draft.ofElements (elements body)).entity name index) := by
  have named : name.table.isEmpty = false := List.isEmpty_eq_false_iff.mpr nonempty
  have filled : (Draft.ofElements (elements body)).columns.isEmpty = false :=
    List.isEmpty_eq_false_iff.mpr declares
  simp only [ofText, definition, found, qualified, named, Bool.false_eq_true, if_false,
    Definition.checked, filled, Bool.false_and]

theorem ofText_of_header {t name body : Text} (identifier : Name.IsIdentifier name)
    (found : header? (unifyTypes t) = some (quoteTable .mysql name, body))
    (declares : (Draft.ofElements (elements body)).columns ≠ []) (index : Int) :
    ofText t index = .ok ((Draft.ofElements (elements body)).entity ⟨none, name⟩ index) :=
  ofText_of_spelling identifier.qualifiedName_backticks identifier.ne_nil found declares index

/-- A definition that is written from clauses is read as the draft of their elements. -/
theorem ofText_definitionText {name : Text} (identifier : Name.IsIdentifier name)
    {clauses : List Clause}
    (unified : unifyTypes (definitionText name clauses) = definitionText name clauses)
    (declares : (Draft.ofElements (clauses.map Clause.element)).columns ≠ []) (index : Int) :
    ofText (definitionText name clauses) index =
      .ok ((Draft.ofElements (clauses.map Clause.element)).entity ⟨none, name⟩ index) := by
  have found : header? (unifyTypes (definitionText name clauses)) =
      some (quoteTable .mysql name, bodyText clauses) := by
    rw [unified, header?_definitionText identifier]
  rw [← elements_bodyText] at declares ⊢
  exact ofText_of_header identifier found declares index

end Table
end SchemaAtlas
