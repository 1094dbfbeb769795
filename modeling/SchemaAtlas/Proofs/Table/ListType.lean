import SchemaAtlas.Proofs.Table.Entry

namespace SchemaAtlas
namespace Table

open Token Dialect

/-!
The values of list types.

Each value is written as a literal in which backslashes and single quotes are doubled, and the
tokens of the definition give it back exactly.  But types of several words are written as one word
before, in the whole text, and so in the values as well.  A value comes back as it was written where
no such type stands in it, and only there.
-/

/-! Values in which a type of several words stands. -/

theorem consumes_wordsPhrase (ws : List Text) :
    Phrase.Consumes ws.flatten.length (wordsPhrase ws) := by
  induction ws with
  | nil => exact (Phrase.advances_give ()).consumes
  | cons w ws ih =>
      rw [List.flatten_cons, List.length_append]
      cases ws with
      | nil => exact Phrase.consumes_letters w
      | cons next ws => exact ((Phrase.consumes_keyword w).mono (Nat.le_succ _)).bind fun _ => ih

theorem consumes_wholeWords (ws : List Text) (before : Option Char) :
    Phrase.Consumes ws.flatten.length (wholeWords ws before) := by
  have words := (consumes_wordsPhrase ws).bind fun _ => Phrase.advances_wordEnd.consumes
  have whole := (Phrase.advances_wordStart before).consumes.bind fun _ => words
  rwa [Nat.zero_add] at whole

theorem consumes_unlimitedText (before : Option Char) :
    Phrase.Consumes "varchar".toList.length (unlimitedText before) := by
  have group := (Phrase.advances_char ']').optional.bind fun _ =>
    Phrase.advances_blanks.bind fun _ =>
    (Phrase.advances_char '(').bind fun _ => Phrase.advances_blanks.bind fun _ =>
      (Phrase.advances_letters "max".toList).bind fun _ =>
        Phrase.advances_blanks.bind fun _ => Phrase.advances_char ')'
  have word := (Phrase.advances_letters ['n']).optional.consumes.bind fun _ =>
    (Phrase.consumes_letters "varchar".toList).bind fun _ => group.consumes
  have whole := ((Phrase.advances_char '[').either (Phrase.advances_wordStart before)).consumes.bind
    fun _ => word
  exact whole.mono (by decide)

/-- What is written for a type is shorter than the type. -/
theorem shortens_of_mem {entry : (Option Char -> Phrase Unit) × Text} (listed : entry ∈ aliases)
    (before : Option Char) : Phrase.Consumes (entry.2.length + 1) (entry.1 before) := by
  simp only [aliases, List.mem_cons, List.not_mem_nil, or_false] at listed
  rcases listed with rfl | rfl | rfl | rfl | rfl | rfl
  · exact (consumes_wholeWords _ before).mono (by decide)
  · exact (consumes_wholeWords _ before).mono (by decide)
  · exact (consumes_wholeWords _ before).mono (by decide)
  · exact (consumes_wholeWords _ before).mono (by decide)
  · exact (consumes_unlimitedText before).mono (by decide)
  · exact Phrase.consumes_blanks1.bind fun _ =>
      ((Phrase.advances_keyword _).bind fun _ => Phrase.advances_letters _).consumes

/-- A text stays as it is where no type of several words stands in it. -/
theorem unifyTypes_eq_self_iff (t : Text) :
    unifyTypes t = t ↔ forall entry, entry ∈ aliases ->
      Phrase.occursAfter entry.1 none t = false := by
  rw [unifyTypes_eq_foldl]
  exact Phrase.foldl_replaceAll_eq_self_iff (fun _ listed => shortens_of_mem listed) t

/-! Definitions with one column of a list type. -/

/-- A value as a literal in which backslashes and quotes are doubled. -/
def valueLiteral (value : Text) : Text :=
  Literal.single (Text.double '\\' value)

/-- The only column of a definition, from its name on, given its literals. -/
def listElement (base : Text) (literals : List Text) : Text :=
  'c' :: ' ' :: (base ++ '(' :: (Text.join ", ".toList literals ++ [')']))

/-- The definition of a table with one column, which lists its values. -/
def listDefinition (base : Text) (values : List Text) : Text :=
  "CREATE TABLE ".toList ++
    ('t' :: ' ' :: '(' :: (listElement base (values.map valueLiteral) ++ [')']))

def listBases : List Text :=
  ["ENUM".toList, "SET".toList]

def listColumn (base : Text) (values : List Text) : Column where
  name := ['c']
  baseType := base
  length := none
  nullable := true
  default := none
  primaryKey := false
  autoIncrement := false
  enumValues := some values
  comment := none

section ListDefinition

variable {base : Text} (listed : base ∈ listBases) {values : List Text}

include listed

/-- The values are all that changes when types are written as one word. -/
theorem unifyTypes_listDefinition (nonempty : values ≠ []) :
    unifyTypes (listDefinition base values) = listDefinition base (values.map unifyTypes) := by
  have checked :
      (listBases.all fun base => opens base && base.all fun c => !Text.isBlank c && c != '(') =
        true := by
    decide
  have type := Frame.isItem_of_checked (List.all_eq_true.mp checked base listed)
  have literals : Frame.IsItem fun g => Text.join ", ".toList
      (values.map fun value => Literal.single (g (Text.double '\\' value))) :=
    Frame.isItem_join nonempty (fun value _ => Frame.isItem_literal _)
      (by simp : [' '] ∈ [[], [' ']])
  have typed := type.grouped literals
  have solid : Solid ['c'] := by
    intro c member
    rw [List.mem_singleton.mp member]
    decide
  -- the name of the column by itself could begin the name of a collation
  have column : Frame.IsItem fun g =>
      listElement base (values.map fun value => Literal.single (g (Text.double '\\' value))) :=
    ⟨(Frame.kept_word solid).append typed.leads typed.spaced,
      ['c', ' '], by decide, fun g => ⟨_, rfl⟩⟩
  have words := Frame.IsItem.pair (isItem_fixed "CREATE".toList (by decide))
    (isItem_fixed "TABLE".toList (by decide))
  have named : Frame.IsItem fun _ => ['t'] := Frame.isItem_of_checked (by decide)
  have unified := unifyTypes_frame (words.pair (named.groupedApart column)).kept
  have doubled : values.map (fun value => Literal.single (unifyTypes (Text.double '\\' value))) =
      (values.map unifyTypes).map valueLiteral := by
    simp only [unifyTypes_double, valueLiteral, List.map_map, Function.comp_def]
  rw [doubled] at unified
  exact unified

end ListDefinition

/-! The definition as it is read. -/

/-- The type with its values in front of quoting. -/
def listSpelling (base : Text) (values : List Text) : Spelling :=
  .listed base (values.map (Text.double '\\'))

def listForms (base : Text) (values : List Text) : List Form :=
  (.identifier, ['c']) :: (listSpelling base values).forms

theorem returns_listForms (base : Text) (values : List Text) :
    returns 0 ((listForms base values).map Prod.fst) = true := by
  have params := (listSpelling base values).returns_params []
  rw [List.append_nil] at params
  simpa [listForms, Spelling.forms, returns] using params

section Reading

variable {base : Text} (listed : base ∈ listBases)

include listed

theorem segment_listElement (values : List Text) :
    Segment (listElement base (values.map valueLiteral)) (listForms base values) := by
  have bare : forall base, base ∈ listBases -> isBareWord base = true ∧
    wordKind base = .typeName := by decide +kernel
  have each : forall part, part ∈ (listSpelling base values).parts -> Segment part.2 [part] := by
    intro part member
    rcases List.mem_map.mp member with ⟨literal, inList, rfl⟩
    rcases List.mem_map.mp inList with ⟨value, _, rfl⟩
    exact segment_escaped value
  have inside := segment_parens
    (segment_listing each (reads_blank (by decide : Text.isBlank ' ' = true)))
  have type := segment_word (bare base listed).1
  rw [(bare base listed).2] at type
  have name : Segment ['c'] [(.identifier, ['c'])] := segment_word (by decide)
  have literals : (listSpelling base values).parts.map Prod.snd = values.map valueLiteral := by
    simp [listSpelling, Spelling.parts, valueLiteral, Function.comp_def]
  rw [literals] at inside
  exact segment_pair name (type.append (broken_cons (by decide) _) inside)

theorem listBases_known :
    Name.stripQuotes base = base ∧ Text.upper base = base ∧ isTypeName base = true ∧
    TypeText.isValueList base = true ∧ serialTypes.contains base = false := by
  have facts : forall base, base ∈ listBases -> Name.stripQuotes base = base ∧
      Text.upper base = base ∧
      isTypeName base = true ∧ TypeText.isValueList base = true ∧
        serialTypes.contains base = false := by decide +kernel
  exact facts base listed

theorem isColumn_of_listForms {head second : Token} (formedHead : head.form = (.identifier, ['c']))
    (formedSecond : second.form = (.typeName, base)) (params : List Token) :
    isColumn head second params = true := by
  rcases listBases_known listed with ⟨bare, _, known, _⟩
  have shown : head.upper = ['C'] := by
    rw [Token.upper, value_of_form formedHead]
    decide
  have free : ['C'] ∉ neverColumns ∧ ['C'] ∉ constraintWords := by decide
  simp [isColumn, isIndex, shown, free, isName, kind_of_form formedHead, value_of_form formedSecond,
    bare, known]

theorem readElement_listForms {values : List Text} {group : List Token}
    (formed : group.map form = listForms base values) (body : Text) :
    readElement body group = .column ⟨listColumn base values, false, []⟩ := by
  rcases List.map_eq_cons_iff.mp formed with ⟨head, others, rfl, formedHead, formedOthers⟩
  rcases List.map_eq_cons_iff.mp formedOthers with ⟨second, params, rfl, formedSecond, formedParams⟩
  have parsed : exists inside, inside.map form = listing (listSpelling base values).parts ∧
      typeParams (params ++ []) = (some inside, []) := Spelling.typeParams_of_parens formedParams
  rcases parsed with ⟨inside, formedInside, found⟩
  rcases listBases_known listed with ⟨bare, upper, _, lists, uncounted⟩
  have read : enumValues inside = values := by
    rw [Spelling.enumValues_of_listing formedInside, List.map_map]
    exact (List.map_congr_left fun value _ => Literal.dropEscapes_double value).trans
      (List.map_id values)
  have typed : second.value = base := value_of_form formedSecond
  have stripped : Name.stripQuotes head.value = ['c'] := by
    rw [value_of_form formedHead]
    decide
  rw [List.append_nil] at found
  rw [readElement, if_pos (isColumn_of_listForms listed formedHead formedSecond params)]
  simp only [readColumn, stripped, typed, bare, upper, found, sizeAndValues, lists, if_true, read,
    uncounted, readAttributes_nil]
  rfl

end Reading

theorem header?_listDefinition (base : Text) (values : List Text) :
    header? (listDefinition base values) =
      some (['t'], '(' :: listElement base (values.map valueLiteral) ++ [')']) := by
  have identifier : Name.IsIdentifier ['t'] := Name.isIdentifier_of_checked (by decide) (by decide)
  exact header?_of_spelling (Text.fails_at_head 't' _ (by decide))
    (Phrase.prefers_optional_absent (unlessExists_eq_nil (by decide) _))
    (identifier.prefers_spelling (Text.fails_at_head ' ' _ (by decide)) rfl)

theorem elements_listElement {base : Text} (listed : base ∈ listBases) (values : List Text) :
    elements ('(' :: listElement base (values.map valueLiteral) ++ [')']) =
      [.column ⟨listColumn base values, false, []⟩] := by
  have blank : forall c, c ∈ [] -> Text.isBlank c = true := by simp
  have given := gives_element (segment_listElement listed values) (List.cons_ne_nil _ _)
    (returns_listForms base values)
    fun body group formed => readElement_listForms listed formed body
  have read := elements_of_gives blank (List.cons_ne_nil () []) (fun _ _ => given) []
  rwa [List.map_singleton, List.map_singleton, Text.join_singleton] at read

/-- What a definition with a list type is read as: the values come back with their types of
several words written as one word, and so they come back as they were exactly where they have no
such types. -/
theorem ofText_listDefinition {base : Text} (listed : base ∈ listBases) {values : List Text}
    (nonempty : values ≠ []) (index : Int) :
    ofText (listDefinition base values) index =
        .ok { Entity.empty ['t'] index with columns := [listColumn base (values.map unifyTypes)] } ∧
      (values.map unifyTypes = values ↔
        forall value, value ∈ values ->
          forall entry, entry ∈ aliases -> Phrase.occursAfter entry.1 none value = false) := by
  constructor
  · have found := header?_listDefinition base (values.map unifyTypes)
    rw [← unifyTypes_listDefinition listed nonempty] at found
    have read := elements_listElement listed (values.map unifyTypes)
    have declares :
        (Draft.ofElements
          (elements ('(' :: listElement base ((values.map unifyTypes).map valueLiteral) ++
        [')']))).columns ≠ [] := by
      rw [read]
      exact List.cons_ne_nil _ _
    have named : QualifiedName.ofText ['t'] = ⟨none, ['t']⟩ := rfl
    rw [ofText_of_spelling named (List.cons_ne_nil _ _) found declares index, read]
    rfl
  · have each := List.map_inj_left (f := unifyTypes) (g := id) (l := values)
    rw [List.map_id] at each
    exact each.trans (forall₂_congr fun value _ => unifyTypes_eq_self_iff value)

/-- Values with a comma, a quote, backslashes, and a type of two words. -/
def mixedValues : List Text :=
  ["in, progress".toList, "it's".toList, "c:\\n".toList, "Double Precision".toList]

theorem ofText_mixedValues :
    listDefinition "ENUM".toList mixedValues =
        "CREATE TABLE t (c ENUM('in, progress', 'it''s', 'c:\\\\n', 'Double Precision'))".toList ∧
      ofText (listDefinition "ENUM".toList mixedValues) 0 =
        .ok { Entity.empty ['t'] 0 with
          columns := [listColumn "ENUM".toList
            ["in, progress".toList, "it's".toList, "c:\\n".toList, "DOUBLE".toList]] } ∧
      mixedValues.map unifyTypes ≠ mixedValues := by
  have read :=
    (ofText_listDefinition (by decide : "ENUM".toList ∈ listBases)
      (by decide : mixedValues ≠ []) 0).1
  have unified : mixedValues.map unifyTypes =
      ["in, progress".toList, "it's".toList, "c:\\n".toList, "DOUBLE".toList] := by decide +kernel
  rw [unified] at read
  refine ⟨by decide, read, ?_⟩
  rw [unified]
  decide

end Table
end SchemaAtlas
