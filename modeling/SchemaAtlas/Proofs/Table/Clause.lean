import SchemaAtlas.Proofs.Dialect.Spelling
import SchemaAtlas.Proofs.Insert.Cell
import SchemaAtlas.Proofs.Table.Attribute
import SchemaAtlas.Proofs.Table.Coherent
import SchemaAtlas.Proofs.Token.Group
import SchemaAtlas.Proofs.Token.Number
import SchemaAtlas.Table.Read

namespace SchemaAtlas

/-!
Columns and keys as MySQL writes them.

What stands behind the type of a column is a list of marks.  Each mark is read by itself and adds
what it means to the attributes already read, so all marks together give the attributes of the
column.  The parameters of a type are a group within the group of their column, and a key of several
columns lists its names the same way.  Both a column and a key are read as what they were written
from.
-/

namespace Literal

/-- Without backslashes a literal stands for the text that it was made from. -/
theorem unquote_single {t : Text} (plain : '\\' ∉ t) : unquote (single t) = t := by
  rw [unquote_single_eq, dropEscapes_eq_self_iff]
  rintro front d rest rfl
  simp at plain

end Literal

namespace Table

open Token

/-! Marks of a column. -/

/-- What MySQL writes behind the type of a column. -/
inductive Mark where
  | mayBeEmpty
  | notEmpty
  | key
  | counting
  | remark (t : Text)

namespace Mark

def forms : Mark -> List Form
  | .mayBeEmpty => [(.keyword, "NULL".toList)]
  | .notEmpty => [(.keyword, "NOT".toList), (.keyword, "NULL".toList)]
  | .key => [(.keyword, "PRIMARY".toList), (.keyword, "KEY".toList)]
  | .counting => [(.keyword, "AUTO_INCREMENT".toList)]
  | .remark t => [(.keyword, "COMMENT".toList), (.string, Literal.single t)]

def words : List Text :=
  ["NULL".toList, "NOT".toList, "PRIMARY".toList, "KEY".toList, "AUTO_INCREMENT".toList,
    "COMMENT".toList]

/-- What the mark adds to the attributes already read. -/
def addTo (a : Attributes) : Mark -> Attributes
  | .mayBeEmpty => a
  | .notEmpty => { a with nullable := false }
  | .key => { a with inlineKey := true }
  | .counting => { a with autoIncrement := true }
  | .remark t => { a with comment := some t }

/-- A comment can be read again where it has no backslash and no white space at its ends. -/
def Legible : Mark -> Prop
  | .remark t => Text.Unpadded t ∧ '\\' ∉ t
  | _ => True

theorem word_of_form {t : Token} {word : Text} (formed : t.form = (.keyword, word))
    (upper : Text.upper word = word) : t.word = word := by
  simp [Token.word, Token.upper, kind_of_form formed, value_of_form formed, upper]

/-- One mark is read at a time. -/
theorem readAttributes_append {mark : Mark} (legible : mark.Legible) {tokens : List Token}
    (formed : tokens.map form = mark.forms) (body name : Text) (a : Attributes) {rest : List Token}
    (unopened : forall t, rest.head? = some t -> t.kind ≠ .openParen) :
    readAttributes body name a (tokens ++ rest) = readAttributes body name (mark.addTo a) rest := by
  cases mark with
  | mayBeEmpty =>
      rcases List.map_eq_singleton_iff.mp formed with ⟨t, rfl, formedNull⟩
      have other : t.word ∉ attributeWords := by
        rw [word_of_form formedNull (by decide)]
        decide
      rw [List.singleton_append, readAttributes_of_not_mem other, kind_of_form formedNull]
      rfl
  | notEmpty =>
      rcases List.map_eq_cons_iff.mp formed with ⟨t, others, rfl, formedNot, formedOthers⟩
      rcases List.map_eq_singleton_iff.mp formedOthers with ⟨u, rfl, formedNull⟩
      apply AttributeRead.readAttributes_eq
      exact .required (word_of_form formedNot (by decide)) (word_of_form formedNull (by decide))
  | key =>
      rcases List.map_eq_cons_iff.mp formed with ⟨t, others, rfl, formedPrimary, formedOthers⟩
      rcases List.map_eq_singleton_iff.mp formedOthers with ⟨u, rfl, formedKey⟩
      apply AttributeRead.readAttributes_eq
      exact .key (word_of_form formedPrimary (by decide)) (word_of_form formedKey (by decide))
  | counting =>
      rcases List.map_eq_singleton_iff.mp formed with ⟨t, rfl, formedCounting⟩
      have word : t.word ∈ countsItself := by
        rw [word_of_form formedCounting (by decide)]
        decide
      -- other dialects count with a start and a step in parentheses
      have skipped : skipParens rest = rest := by
        cases rest with
        | nil => rfl
        | cons u others => simp [skipParens, unopened u rfl]
      rw [List.singleton_append, (AttributeRead.counting word).readAttributes_eq, skipped]
      rfl
  | remark text =>
      rcases List.map_eq_cons_iff.mp formed with ⟨t, others, rfl, formedComment, formedOthers⟩
      rcases List.map_eq_singleton_iff.mp formedOthers with ⟨u, rfl, formedText⟩
      have read : Text.trim (Literal.unquote u.value) = text := by
        rw [value_of_form formedText, Literal.unquote_single legible.2,
          Text.trim_of_unpadded legible.1]
      rw [addTo, ← read]
      apply AttributeRead.readAttributes_eq
      exact .remark (word_of_form formedComment (by decide)) (kind_of_form formedText)

/-- The tokens of a mark are keywords, and the literal of a comment. -/
theorem of_mem_forms {mark : Mark} {f : Form} (member : f ∈ mark.forms) :
    (exists word, word ∈ words ∧ f = (.keyword, word)) ∨
      exists t, mark = .remark t ∧ f = (.string, Literal.single t) := by
  have fixed : forall other, other ∈ [mayBeEmpty, notEmpty, key, counting] ->
      forall g, g ∈ other.forms -> g.1 = .keyword ∧ g.2 ∈ words := by decide
  cases mark with
  | remark t =>
      rcases List.mem_cons.mp member with rfl | later
      · exact Or.inl ⟨"COMMENT".toList, by decide, rfl⟩
      · exact Or.inr ⟨t, rfl, List.mem_singleton.mp later⟩
  | _ =>
      have here := fixed _ (by simp) f member
      exact Or.inl ⟨f.2, here.2, Prod.ext here.1 rfl⟩

theorem flat_forms (marks : List Mark) : Flat (marks.flatMap forms) := by
  intro f listed
  rcases List.mem_flatMap.mp listed with ⟨mark, _, inside⟩
  rcases of_mem_forms inside with ⟨word, _, rfl⟩ | ⟨text, _, rfl⟩
  · simp
  · simp

/-- No mark begins with a parenthesis. -/
theorem unopened_of_forms {marks : List Mark} {tokens : List Token}
    (formed : tokens.map form = marks.flatMap forms) :
    forall t, tokens.head? = some t -> t.kind ≠ .openParen := by
  intro t first opens
  have listed : t.form ∈ marks.flatMap forms :=
    formed ▸ List.mem_map_of_mem (List.mem_of_head? first)
  exact flat_forms marks t.form listed (opens ▸ List.mem_cons_self)

/-- All marks together. -/
theorem readAttributes_eq_foldl {marks : List Mark}
    (legible : forall mark, mark ∈ marks -> mark.Legible) {tokens : List Token}
    (formed : tokens.map form = marks.flatMap forms) (body name : Text) (a : Attributes) :
    readAttributes body name a tokens = marks.foldl addTo a := by
  induction marks generalizing tokens a with
  | nil =>
      obtain rfl : tokens = [] := List.map_eq_nil_iff.mp formed
      rw [readAttributes_nil]
      rfl
  | cons mark marks ih =>
      rw [List.flatMap_cons] at formed
      rcases List.map_eq_append_iff.mp formed with ⟨group, rest, rfl, formedGroup, formedRest⟩
      rw [readAttributes_append (legible mark List.mem_cons_self) formedGroup body name a
        (unopened_of_forms formedRest), List.foldl_cons]
      exact ih (fun other member => legible other (List.mem_cons_of_mem mark member)) formedRest _

/-- Each token of a mark stands for itself. -/
theorem segment_of_mem {mark : Mark} (legible : mark.Legible) {f : Form} (member : f ∈ mark.forms) :
    Segment f.2 [f] := by
  have plain : forall word, word ∈ words -> isBareWord word = true ∧ wordKind word = .keyword := by
    decide +kernel
  rcases of_mem_forms member with ⟨word, listed, rfl⟩ | ⟨t, rfl, rfl⟩
  · have segment := segment_word (plain word listed).1
    rwa [(plain word listed).2] at segment
  · exact segment_literal legible.2

end Mark
end Table

namespace Dialect
namespace Spelling

open Token

/-! Types. -/

/-- The tokens that a spelling lists in parentheses. -/
def parts : Spelling -> List Form
  | .bare _ => []
  | .sized _ runs => runs.map fun run => (.number, run)
  | .listed _ values => values.map fun value => (.string, Literal.single value)

def params : Spelling -> List Form
  | .bare _ => []
  | w => (.openParen, ['(']) :: listing w.parts ++ [(.closeParen, [')'])]

def forms (w : Spelling) : List Form :=
  (.typeName, w.base) :: w.params

theorem flat_parts (w : Spelling) : Flat w.parts := by
  intro part member
  cases w with
  | bare base => cases member
  | sized base runs =>
      rcases List.mem_map.mp member with ⟨run, _, rfl⟩
      simp
  | listed base values =>
      rcases List.mem_map.mp member with ⟨value, _, rfl⟩
      simp

/-- The parameters of a type are a group within the group of their column. -/
theorem returns_params (w : Spelling) (rest : List TokenKind) :
    returns 0 (w.params.map Prod.fst ++ rest) = returns 0 rest := by
  have skipped := w.flat_parts.returns_parens rest
  cases w with
  | bare base => rfl
  | sized base runs => simpa [params] using skipped
  | listed base values => simpa [params] using skipped

theorem Stands.segment_part {w : Spelling} (stands : w.Stands) {part : Form}
    (member : part ∈ w.parts) : Segment part.2 [part] := by
  have legible := stands.legible
  cases w with
  | bare base => cases member
  | sized base runs =>
      rcases List.mem_map.mp member with ⟨run, listed, rfl⟩
      have digits := legible.2.2 run listed
      exact segment_digits digits.nonempty digits.digits
  | listed base values =>
      rcases List.mem_map.mp member with ⟨value, listed, rfl⟩
      exact segment_literal (legible.2 value listed)

/-- The text of a type gives its tokens. -/
theorem Stands.segment {w : Spelling} (stands : w.Stands) : Segment w.text w.forms := by
  have bare : forall base, base ∈ typeNames -> isBareWord base = true := by decide +kernel
  have kind : wordKind w.base = .typeName := by
    rw [wordKind, isTypeName_of_known stands.known, if_pos rfl]
  have name := segment_word (bare w.base stands.known)
  rw [kind] at name
  have inside := segment_parens
    (segment_listing (fun part member => stands.segment_part member) reads_nil)
  have both := name.append (broken_cons (by decide) _) inside
  cases w with
  | bare base => exact name
  | sized base runs =>
      simpa [Spelling.base, text, withParams, forms, params, parts, Function.comp_def] using both
  | listed base values =>
      simpa [Spelling.base, text, withParams, literalList, forms, params, parts,
        Function.comp_def] using both

/-- The values of a column that is read from a spelling. -/
def readValues : Spelling -> Option (List Text)
  | .bare _ => none
  | .sized base runs => if isPrecise base then some (numericParams (Text.join [','] runs)) else none
  | .listed _ values => some values

theorem readValues_of_values {w : Spelling} {values : List Text} (given : w.values = some values) :
    w.readValues = some values := by
  cases w with
  | bare base => cases given
  | sized base runs => cases given
  | listed base others => exact given

/-- The literals of a list type are read with their backslashes resolved. -/
theorem enumValues_of_listing {base : Text} {values : List Text} {tokens : List Token}
    (formed : tokens.map form = listing (parts (.listed base values))) :
    Table.enumValues tokens = values.map Literal.dropEscapes := by
  have groups := groups_of_forms (flat_parts (.listed base values)).grouped formed
  rw [parts, List.map_map] at groups
  refine map_of_forms groups ?_
  intro value member group formedGroup
  rcases List.map_eq_singleton_iff.mp formedGroup with ⟨t, rfl, formedText⟩
  change Literal.unquote t.value = Literal.dropEscapes value
  rw [value_of_form formedText]
  exact Literal.unquote_single_eq value

theorem Stands.enumValues_eq {base : Text} {values : List Text}
    (stands : Stands (.listed base values)) {tokens : List Token}
    (formed : tokens.map form = listing (parts (.listed base values))) :
    Table.enumValues tokens = values := by
  have plain : forall value, value ∈ values -> Literal.dropEscapes value = value := by
    intro value member
    rw [← Literal.unquote_single_eq]
    exact Literal.unquote_single (stands.legible.2 value member)
  rw [enumValues_of_listing formed]
  exact (List.map_congr_left plain).trans (List.map_id values)

/-- A listing in parentheses is what stands behind the name of a type. -/
theorem typeParams_of_parens {w : Spelling} {tokens rest : List Token}
    (formed : tokens.map form = (.openParen, ['(']) :: listing w.parts ++ [(.closeParen, [')'])]) :
    exists inside, inside.map form = listing w.parts ∧
      Table.typeParams (tokens ++ rest) = (some inside, rest) := by
  rw [List.cons_append] at formed
  rcases List.map_eq_cons_iff.mp formed with ⟨opening, others, rfl, opens, formedOthers⟩
  rcases List.map_eq_append_iff.mp formedOthers with ⟨inside, last, rfl, formedInside, formedLast⟩
  rcases List.map_eq_singleton_iff.mp formedLast with ⟨closing, rfl, closes⟩
  have found := Table.parens_of_forms w.flat_parts.grouped formedInside (kind_of_form closes) rest
  refine ⟨inside, formedInside, ?_⟩
  simp [Table.typeParams, kind_of_form opens, found]

/-- The parameters of a type are read as its length and its values. -/
theorem Stands.exists_params {w : Spelling} (stands : w.Stands) {tokens rest : List Token}
    (formed : tokens.map form = w.params)
    (unopened : forall t, rest.head? = some t -> t.kind ≠ .openParen) :
    exists params, Table.typeParams (tokens ++ rest) = (params, rest) ∧
      Table.sizeAndValues w.base params = (w.length, w.readValues) := by
  cases w with
  | bare base =>
      obtain rfl : tokens = [] := List.map_eq_nil_iff.mp formed
      refine ⟨none, ?_, rfl⟩
      cases rest with
      | nil => rfl
      | cons t others => simp [Table.typeParams, unopened t rfl]
  | sized base runs =>
      rcases typeParams_of_parens formed with ⟨inside, formedInside, found⟩
      have spelled : inside.flatMap value = Text.join [','] runs := by
        rw [flatMap_value_of_listing formedInside, parts, List.map_map]
        exact congrArg _ (List.map_id runs)
      rcases stands.legible with ⟨noList, nonempty, digits⟩
      have filled : Text.join [','] runs ≠ [] := by
        cases runs with
        | nil => exact absurd rfl nonempty
        | cons first runs => exact Text.join_ne_nil (digits first List.mem_cons_self).nonempty runs
      refine ⟨_, found, ?_⟩
      simp only [Table.sizeAndValues, Spelling.base, noList, Bool.false_eq_true, if_false, spelled,
        length, readValues]
      cases length : Text.join [','] runs with
      | nil => exact absurd length filled
      | cons d ds => rfl
  | listed base values =>
      rcases typeParams_of_parens formed with ⟨inside, formedInside, found⟩
      refine ⟨_, found, ?_⟩
      rw [Table.sizeAndValues, Spelling.base, if_pos stands.legible.1,
        stands.enumValues_eq formedInside]
      rfl

end Spelling
end Dialect

namespace Column

/-- A column that MySQL can write and that can be read again: names, numbers and texts that need
no escapes, and no default value. -/
structure Portable (c : Column) : Prop where
  named : Name.IsIdentifier c.name
  known : c.baseType ∈ Token.typeNames
  sized : forall given, c.length = some given -> Dialect.IsLength given
  unsized : TypeText.isValueList c.baseType = true -> c.length = none
  unset : c.default = none
  remarked : forall t, c.comment = some t -> t ≠ [] ∧ Text.Unpadded t ∧ '\\' ∉ t
  valued : TypeText.isValueList c.baseType = true ->
    forall values, c.enumValues = some values -> forall value, value ∈ values -> '\\' ∉ value

end Column

namespace Table

open Token Dialect

/-! Columns. -/

/-- The marks of a column, given whether the key is declared apart from the columns. -/
def marksOf (c : Column) (apart : Bool) : List Mark :=
  (if c.primaryKey then .notEmpty :: (if apart then [] else [.key])
    else if c.nullable then [.mayBeEmpty] else [.notEmpty])
    ++ (if c.autoIncrement then [.counting] else []) ++ c.comment.toList.map .remark

theorem legible_of_mem_marksOf {c : Column} (portable : c.Portable) {apart : Bool} {mark : Mark}
    (member : mark ∈ marksOf c apart) : mark.Legible := by
  cases mark with
  | remark t =>
      have given : c.comment = some t := by
        simp only [marksOf, List.mem_append, List.mem_map, Option.mem_toList] at member
        rcases member with (presence | counting) | ⟨text, given, equal⟩
        · split at presence <;> split at presence <;> simp at presence
        · split at counting <;> simp at counting
        · rw [← Mark.remark.inj equal]
          exact given
      exact (portable.remarked t given).2
  | _ => trivial

/-- The marks of a column say what it is. -/
theorem foldl_marksOf (c : Column) (apart : Bool) :
    (marksOf c apart).foldl Mark.addTo ⟨true, false, false, none, none, []⟩ =
      ⟨c.nullable && !c.primaryKey, c.primaryKey && !apart, c.autoIncrement, none, c.comment,
        []⟩ := by
  rcases c with ⟨name, base, length, nullable, default, isKey, counts, values, comment⟩
  cases isKey <;> cases nullable <;> cases counts <;> cases apart <;> cases comment <;> rfl

/-- The parts of a column with spaces between them: its name, its type, and the
tokens of its marks. -/
def columnItems (w : Spelling) (c : Column) (apart : Bool) : List (Text × List Form) :=
  (quoteColumn .mysql c.name, [(.quotedIdentifier, quoteColumn .mysql c.name)]) ::
    (w.text, w.forms) ::
    ((marksOf c apart).flatMap Mark.forms).map fun f => (f.2, [f])

/-- A column is written part by part. -/
theorem column_eq {c : Column} (portable : c.Portable) {w : Spelling}
    (typed : typeOf .mysql c = w.text) (apart : Bool) :
    column .mysql c apart = .ok (Text.join [' '] ((columnItems w c apart).map Prod.fst)) := by
  have unset := portable.unset
  have remarked := portable.remarked
  have plain : (c.autoIncrement && Dialect.mysql == .postgresql) = false := Bool.and_false _
  simp only [column, plain, Bool.false_eq_true, if_false, defaultOf, unset, Except.map, typed]
  rcases c with ⟨name, base, length, nullable, default, isKey, counts, values, comment⟩
  rcases comment with _ | _ | ⟨x, xs⟩
  · cases isKey <;> cases nullable <;> cases counts <;> cases apart <;> rfl
  · exact absurd rfl (remarked [] rfl).1
  · cases isKey <;> cases nullable <;> cases counts <;> cases apart <;> rfl

theorem segment_columnItems {c : Column} (portable : c.Portable) {w : Spelling} (stands : w.Stands)
    {apart : Bool} : forall item, item ∈ columnItems w c apart -> Segment item.1 item.2 := by
  intro item member
  rcases List.mem_cons.mp member with rfl | behind
  · exact segment_name portable.named
  · rcases List.mem_cons.mp behind with rfl | later
    · exact stands.segment
    · rcases List.mem_map.mp later with ⟨f, inside, rfl⟩
      rcases List.mem_flatMap.mp inside with ⟨mark, listed, inMark⟩
      exact Mark.segment_of_mem (legible_of_mem_marksOf portable listed) inMark

def columnForms (w : Spelling) (c : Column) (apart : Bool) : List Form :=
  (.quotedIdentifier, quoteColumn .mysql c.name) :: w.forms ++ (marksOf c apart).flatMap Mark.forms

theorem flatten_columnItems (w : Spelling) (c : Column) (apart : Bool) :
    ((columnItems w c apart).map Prod.snd).flatten = columnForms w c apart := by
  have alone : forall forms : List Form, (forms.map fun f => [f]).flatten = forms := by
    intro forms
    rw [← List.flatMap_def, List.flatMap_singleton']
  simp only [columnItems, List.map_cons, List.map_map, Function.comp_def, List.flatten_cons, alone,
    columnForms, List.cons_append, List.nil_append]

theorem returns_columnForms (w : Spelling) (c : Column) (apart : Bool) :
    returns 0 ((columnForms w c apart).map Prod.fst) = true := by
  have marks := (Mark.flat_forms (marksOf c apart)).returns_append 0 []
  have params := w.returns_params (((marksOf c apart).flatMap Mark.forms).map Prod.fst)
  rw [List.append_nil] at marks
  rw [marks] at params
  simpa [columnForms, Spelling.forms, returns] using params

/-- The column that is read from a written one, before the keys and the counting
of the table are settled. -/
def reread (w : Spelling) (c : Column) (apart : Bool) : ColumnReading where
  column :=
    { c with
      baseType := w.base
      length := w.length
      primaryKey := c.primaryKey && !apart
      autoIncrement := false
      enumValues := w.readValues }
  counts := c.autoIncrement
  references := []

/-- A name in backticks and a known type declare a column. -/
theorem readElement_of_known {name base : Text} (known : base ∈ typeNames) {head second : Token}
    (formedHead : head.form = (.quotedIdentifier, quoteColumn .mysql name))
    (formedSecond : second.form = (.typeName, base)) (body : Text) (rest : List Token) :
    readElement body (head :: second :: rest) = .column (readColumn body head second rest) ∧
      Name.stripQuotes head.value = name ∧ Text.upper (Name.stripQuotes second.value) = base := by
  have bare : forall base, base ∈ typeNames -> Name.stripQuotes base = base := by decide +kernel
  have stripped := bare base known
  have declares : isColumn head second rest = true := by
    have quoted : head.upper = '\x60' :: Text.upper (name ++ ['\x60']) := by
      rw [Token.upper, value_of_form formedHead]
      rfl
    have never : head.upper ∉ neverColumns := by simp [quoted, neverColumns]
    simp [isColumn, never, isName, isIndex, kind_of_form formedHead, value_of_form formedSecond,
      stripped, isTypeName_of_known known]
  refine ⟨?_, ?_, ?_⟩
  · rw [readElement, if_pos declares]
  · rw [value_of_form formedHead]
    exact Name.stripQuotes_backticks name
  · rw [value_of_form formedSecond, stripped]
    exact (ofText_of_known base known).2.1

theorem readElement_column {c : Column} (portable : c.Portable) (required : c.KeyIsRequired)
    {w : Spelling} (stands : w.Stands) {apart : Bool} {group : List Token}
    (formed : group.map form = columnForms w c apart) (body : Text) :
    readElement body group = .column (reread w c apart) := by
  rw [columnForms, Spelling.forms, List.cons_append, List.cons_append] at formed
  rcases List.map_eq_cons_iff.mp formed with ⟨head, others, rfl, formedHead, formedOthers⟩
  rcases List.map_eq_cons_iff.mp formedOthers with ⟨second, rest, rfl, formedSecond, formedRest⟩
  rcases List.map_eq_append_iff.mp formedRest with ⟨params, marks, rfl, formedParams, formedMarks⟩
  rcases readElement_of_known stands.known formedHead formedSecond body (params ++ marks) with
    ⟨declared, name, base⟩
  rcases stands.exists_params formedParams (Mark.unopened_of_forms formedMarks) with
    ⟨inside, found, sized⟩
  have attributes := Mark.readAttributes_eq_foldl
    (fun mark => legible_of_mem_marksOf portable) formedMarks body
  have uncounted : serialTypes.contains w.base = false := by simpa using stands.uncounted
  have present : (c.nullable && !c.primaryKey && !(c.primaryKey && !apart)) = c.nullable := by
    cases isKey : c.primaryKey with
    | true => simp [required isKey]
    | false => simp
  rw [declared]
  simp only [readColumn, name, base, found, sized, uncounted, attributes, foldl_marksOf,
    Column.settled, present, reread]
  rw [portable.unset]
  rfl

/-! Keys of several columns. -/

/-- The names of key columns as tokens. -/
def keyParts (names : List Text) : List Form :=
  names.map fun name => (.quotedIdentifier, quoteColumn .mysql name)

def keyForms (names : List Text) : List Form :=
  [(.keyword, "PRIMARY".toList), (.keyword, "KEY".toList), (.openParen, ['('])] ++ listing
    (keyParts names)
    ++ [(.closeParen, [')'])]

def keyText (names : List Text) : Text :=
  "PRIMARY KEY(".toList ++ Text.join ", ".toList (names.map (quoteColumn .mysql)) ++ [')']

theorem flat_keyParts (names : List Text) : Flat (keyParts names) := by
  intro part member
  rcases List.mem_map.mp member with ⟨name, _, rfl⟩
  simp

theorem returns_keyForms (names : List Text) :
    returns 0 ((keyForms names).map Prod.fst) = true := by
  have skipped := (flat_keyParts names).returns_parens []
  simpa [keyForms, returns] using skipped

/-- The names of a key in parentheses. -/
theorem segment_keyNames {names : List Text}
    (identifiers : forall name, name ∈ names -> Name.IsIdentifier name) :
    Segment ('(' :: Text.join ", ".toList (names.map (quoteColumn .mysql)) ++ [')'])
      ((.openParen, ['(']) :: listing (keyParts names) ++ [(.closeParen, [')'])]) := by
  have alone : forall part, part ∈ keyParts names -> Segment part.2 [part] := by
    intro part member
    rcases List.mem_map.mp member with ⟨name, listed, rfl⟩
    exact segment_name (identifiers name listed)
  have inside := segment_parens
    (segment_listing alone (reads_blank (by decide : Text.isBlank ' ' = true)))
  rwa [keyParts, List.map_map] at inside

theorem segment_key {names : List Text}
    (identifiers : forall name, name ∈ names -> Name.IsIdentifier name) :
    Segment (keyText names) (keyForms names) := by
  have legible : Mark.key.Legible := trivial
  have primary := Mark.segment_of_mem legible
    (by decide : (.keyword, "PRIMARY".toList) ∈ Mark.key.forms)
  have key := Mark.segment_of_mem legible (by decide : (.keyword, "KEY".toList) ∈ Mark.key.forms)
  have last := (key.append (broken_cons (by decide) _) (segment_keyNames identifiers)).blank_cons
    (by decide : Text.isBlank ' ' = true)
  exact primary.append (broken_cons (by decide) _) last

/-- The names of a key are given back in order. -/
theorem nameList_of_keyParts {names : List Text} {inside : List Token}
    (formed : inside.map form = listing (keyParts names)) {closing : Token}
    (closes : closing.kind = .closeParen) (rest : List Token) :
    nameList (inside ++ closing :: rest) = names := by
  have found := (parens_of_forms (flat_keyParts names).grouped formed closes rest).1
  have groups := groups_of_forms (flat_keyParts names).grouped formed
  rw [keyParts, List.map_map] at groups
  rw [nameList, found]
  refine (filterMap_of_forms groups ?_).trans (List.map_id _)
  intro name member group formedGroup
  rcases List.map_eq_singleton_iff.mp formedGroup with ⟨t, rfl, formedName⟩
  have stripped : Name.stripQuotes t.value = name := by
    rw [value_of_form formedName]
    exact Name.stripQuotes_backticks name
  simp [kind_of_form formedName, stripped]

/-- The words of a key, and the names behind them. -/
theorem readConstraint_key {names : List Text} {group : List Token}
    (formed : group.map form = keyForms names) :
    readConstraint group = .primaryKey names ∧
      group.head?.map Token.upper = some "PRIMARY".toList := by
  rw [keyForms, List.append_assoc] at formed
  rcases List.map_eq_append_iff.mp formed with ⟨words, others, rfl, formedWords, formedOthers⟩
  rcases List.map_eq_append_iff.mp formedOthers with ⟨inside, last, rfl, formedInside, formedLast⟩
  rcases List.map_eq_singleton_iff.mp formedLast with ⟨closing, rfl, closes⟩
  rcases List.map_eq_cons_iff.mp formedWords with ⟨primary, words, rfl, formedPrimary, formedWords⟩
  rcases List.map_eq_cons_iff.mp formedWords with ⟨key, words, rfl, formedKey, formedWords⟩
  rcases List.map_eq_singleton_iff.mp formedWords with ⟨opening, rfl, opens⟩
  have upperPrimary : primary.upper = "PRIMARY".toList := by
    rw [Token.upper, value_of_form formedPrimary]
    decide
  have upperKey : key.upper = "KEY".toList := by
    rw [Token.upper, value_of_form formedKey]
    decide
  have names := nameList_of_keyParts formedInside (kind_of_form closes) []
  constructor
  · simp [readConstraint, upperPrimary, upperKey, nameListIn, kind_of_form opens, names]
  · simp [upperPrimary]

theorem readElement_key {names : List Text} {group : List Token}
    (formed : group.map form = keyForms names) (body : Text) :
    readElement body group = .primaryKey names := by
  rcases readConstraint_key formed with ⟨constraint, first⟩
  have noColumn : forall head second rest, group = head :: second :: rest ->
      isColumn head second rest = false := by
    rintro head second rest rfl
    simp [isColumn, Option.some.inj first, neverColumns]
  have other : readElement body group = readOther group := by
    rcases group with _ | ⟨head, _ | ⟨second, rest⟩⟩
    · rfl
    · rfl
    · rw [readElement, noColumn head second rest rfl, if_neg (by decide)]
  rw [other, ← constraint]
  cases group with
  | nil => cases first
  | cons head rest => simp [readOther, Option.some.inj first, constraintWords]

end Table
end SchemaAtlas
