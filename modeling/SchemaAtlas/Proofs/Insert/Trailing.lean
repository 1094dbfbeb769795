import SchemaAtlas.Proofs.Insert.Nested
import SchemaAtlas.Proofs.Insert.Overlong
import SchemaAtlas.Proofs.Insert.Written

namespace SchemaAtlas

/-!
Clauses behind the list of values.

An insertion may say at its end what becomes of rows that are there already.  The reader of rows
does not know where the list of values ends: it takes every group in parentheses outside literals
for a row, up to the end of the statement.  So each group of such a clause is one more row, behind
the rows that the statement lists.
-/

namespace Scalar

/-- The cell that a bare name is taken for: one of three words, or the name as a text. -/
def ofName (name : Text) : Scalar :=
  let u := Text.upper name
  if u == "NULL".toList then .null
  else if u == "TRUE".toList then .bool true
  else if u == "FALSE".toList then .bool false
  else .text name

/-- A bare name is never a number. -/
theorem ofNumeral_identifier {name : Text} (identifier : Name.IsIdentifier name) :
    ofNumeral name = .ok (.text name) := by
  rcases identifier.begins with ⟨c, rest, rfl, noDigit⟩
  have char := identifier.chars c List.mem_cons_self
  have bounds := Name.identifierChar_bounds char
  have noMinus : c ≠ '-' := Name.ne_of_identifierChar char (by decide)
  have noPlus : c ≠ '+' := Name.ne_of_identifierChar char (by decide)
  have noPoint : c ≠ '.' := Name.ne_of_identifierChar char (by decide)
  have noDecimal : Text.isDecimalDigit c = false := by
    have small : c.toNat < 0x80 := by omega
    simp only [Text.isDecimalDigit, if_pos small, noDigit]
  have unsigned : Numeral.readSign (c :: rest) = (false, c :: rest) := by
    unfold Numeral.readSign
    split
    · rename_i equal
      exact absurd (List.cons.inj equal).1 noMinus
    · rename_i equal
      exact absurd (List.cons.inj equal).1 noPlus
    · rfl
  have pointless : Numeral.readFraction false (c :: rest) = (false, [], c :: rest) := by
    unfold Numeral.readFraction
    split
    · rename_i equal
      exact absurd (List.cons.inj equal).1 noPoint
    · rfl
  have none : Numeral.ofText? (c :: rest) = none := by
    simp [Numeral.ofText?, Numeral.read?, unsigned, noDecimal, pointless]
  rw [ofNumeral, none]

theorem ofText_identifier {name : Text} (identifier : Name.IsIdentifier name) :
    ofText name = .ok (ofName name) := by
  have bare : Literal.enclosingQuote? name = none := by
    rcases identifier.begins with ⟨c, rest, rfl, _⟩
    have char := identifier.chars c List.mem_cons_self
    have noQuote : Literal.isQuote c = false := by
      simp [Literal.isQuote, Name.ne_of_identifierChar char (d := '\'') (by decide),
        Name.ne_of_identifierChar char (d := '"') (by decide)]
    cases rest with
    | nil => rfl
    | cons d more => simp [Literal.enclosingQuote?, noQuote]
  simp only [ofText, Text.trim_of_unpadded identifier.unpadded, bare,
    ofNumeral_identifier identifier, ofName]
  split
  · rfl
  · split
    · rfl
    · split <;> rfl

end Scalar

namespace Insert

/-! Literals. -/

/-- The inside of a literal in single quotes: quotes stand in pairs, and a backslash stands in
front of any character. -/
inductive Quotable : Text -> Prop
  | nil : Quotable []
  | plain {c : Char} {rest : Text} (noQuote : c ≠ '\'') (noBackslash : c ≠ '\\')
      (later : Quotable rest) :
      Quotable (c :: rest)
  | pair {rest : Text} (later : Quotable rest) : Quotable ('\'' :: '\'' :: rest)
  | escape (c : Char) {rest : Text} (later : Quotable rest) : Quotable ('\\' :: c :: rest)

/-- The literals of rows and assignments: nothing, whole numbers, and texts in single quotes. -/
inductive IsLiteral : Text -> Prop
  | null : IsLiteral "NULL".toList
  | whole {sign digits : Text} (signed : sign ∈ Numeral.signs) (nonempty : digits ≠ [])
      (all : forall c, c ∈ digits -> c.isDigit = true) : IsLiteral (sign ++ digits)
  | quoted {body : Text} (inside : Quotable body) : IsLiteral ('\'' :: body ++ ['\''])

theorem Quotable.inside {body : Text} (quotable : Quotable body) : Inside '\'' body := by
  induction quotable with
  | nil => exact Inside.nil
  | plain noQuote noBackslash _ ih => exact Inside.plain noQuote noBackslash ih
  | pair _ ih => exact Inside.pair ih
  | escape c _ ih => exact Inside.escape c ih

namespace IsLiteral

theorem ne_nil {t : Text} (literal : IsLiteral t) : t ≠ [] := by
  cases literal with
  | null => simp
  | whole _ nonempty _ => simp [nonempty]
  | quoted _ => simp

/-- No literal is cut, whatever stands between its quotes. -/
theorem sealed {t : Text} (literal : IsLiteral t) : Sealed isCut t := by
  cases literal with
  | null => exact Sealed.of_forall (List.all_iff_forall_prop.mp (by decide))
  | @whole sign digits signed nonempty all =>
      have signs : (Numeral.signs.all fun s => s.all fun c => !Literal.isQuote c && !isCut c) =
        true := by decide
      apply Sealed.of_forall
      intro c member
      rcases List.mem_append.mp member with inSign | inDigits
      · simpa using List.all_eq_true.mp (List.all_eq_true.mp signs sign signed) c inSign
      · have digit := all c inDigits
        have apart : forall d : Char, d.isDigit = false -> (c == d) = false := by
          intro d outside
          apply beq_eq_false_iff_ne.mpr
          rintro rfl
          exact absurd digit (by simp [outside])
        simp [Literal.isQuote, isCut, isParen, apart '\'' (by decide), apart '"' (by decide),
          apart '(' (by decide), apart ')' (by decide), apart ',' (by decide)]
  | quoted quotable => exact sealed_literal (by decide) (by decide) quotable.inside

end IsLiteral

theorem sealed_identifier {name : Text} (identifier : Name.IsIdentifier name) :
    Sealed isCut name := by
  apply Sealed.of_forall
  intro c member
  have char := identifier.chars c member
  simp [Literal.isQuote, isCut, isParen, Name.ne_of_identifierChar char (d := '\'') (by decide),
    Name.ne_of_identifierChar char (d := '"') (by decide),
    Name.ne_of_identifierChar char (d := '(') (by decide),
      Name.ne_of_identifierChar char (d := ')') (by decide),
        Name.ne_of_identifierChar char (d := ',') (by decide)]

/-! Statements. -/

/-- An insertion that lists rows of literals for some columns of a table. -/
structure Listing where
  table : Text
  columns : List Text
  rows : List (List Text)
  table_identifier : Name.IsIdentifier table
  columns_identifier : forall name, name ∈ columns -> Name.IsIdentifier name
  columns_ne_nil : columns ≠ []
  rows_ne_nil : rows ≠ []
  literals : forall row, row ∈ rows -> forall t, t ∈ row -> IsLiteral t

namespace Listing

/-- The rows as the statement lists them. -/
def valuesText (l : Listing) : Text :=
  Text.join ", ".toList ((l.rows.map (Text.join ", ".toList)).map inParens)

def statement (l : Listing) : Text :=
  statementText l.table (Text.join ", ".toList l.columns) l.valuesText

/-- The rows that are listed; none are read where a whole number has too many digits. -/
def values (l : Listing) : Except NumeralError (List (List Scalar)) :=
  l.rows.mapM fun row => row.mapM Scalar.ofText

theorem rows_valuesText (l : Listing) (rest : Text) :
    rowTexts (l.valuesText ++ rest) = l.rows.map (Text.join ", ".toList) ++ rowTexts rest := by
  apply RowSearch.rows_join_inParens sealed_comma_space
  intro t listed
  rcases List.mem_map.mp listed with ⟨row, inRows, rfl⟩
  apply Sealed.join sealed_comma_space
  intro literal member
  exact (l.literals row inRows literal member).sealed.mono fun _ => isParen_of_isCut

theorem mapM_cells (l : Listing) : (l.rows.map (Text.join ", ".toList)).mapM cells = l.values := by
  rw [List.mapM_map, values]
  apply mapM_congr
  intro row listed
  exact cells_join (fun t member => (l.literals row listed t member).ne_nil)
    fun t member => (l.literals row listed t member).sealed

end Listing

/-! Clauses. -/

/-- What becomes of rows that are there already: nothing is done, given the columns that tell, or
some columns take over the values of the new row, or some columns are set to literals. -/
inductive ConflictClause where
  | doNothing (names : List Text) (nonempty : names ≠ [])
      (identifiers : forall name, name ∈ names -> Name.IsIdentifier name)
  | takeOver (names : List Text) (nonempty : names ≠ [])
      (identifiers : forall name, name ∈ names -> Name.IsIdentifier name)
  | assign (settings : List (Text × Text)) (nonempty : settings ≠ [])
      (proper : forall setting, setting ∈ settings -> Name.IsIdentifier setting.1 ∧
        IsLiteral setting.2)

namespace ConflictClause

def text : ConflictClause -> Text
  | .doNothing names _ _ =>
    "ON CONFLICT ".toList ++ (inParens (Text.join ", ".toList names) ++ " DO NOTHING".toList)
  | .takeOver names _ _ =>
    "ON DUPLICATE KEY UPDATE ".toList
      ++ Text.join ", ".toList (names.map fun name => name ++ (" = VALUES".toList ++ inParens name))
  | .assign settings _ _ =>
    "ON DUPLICATE KEY UPDATE ".toList
      ++ Text.join ", ".toList
        (settings.map fun setting => setting.1 ++ (" = ".toList ++ setting.2))

def groups : ConflictClause -> List Text
  | .doNothing names _ _ => [Text.join ", ".toList names]
  | .takeOver names _ _ => names
  | .assign _ _ _ => []

/-- The rows that are read from the groups: the names of columns, each taken for a cell. -/
def strayRows : ConflictClause -> List (List Scalar)
  | .doNothing names _ _ => [names.map Scalar.ofName]
  | .takeOver names _ _ => names.map fun name => [Scalar.ofName name]
  | .assign _ _ _ => []

theorem strayRows_eq_nil_iff (clause : ConflictClause) :
    clause.strayRows = [] ↔ exists settings nonempty proper, clause =
      .assign settings nonempty proper := by
  cases clause with
  | doNothing names nonempty identifiers => simp [strayRows]
  | takeOver names nonempty identifiers => simp [strayRows, nonempty]
  | assign settings nonempty proper =>
      exact ⟨fun _ => ⟨settings, nonempty, proper, rfl⟩, fun _ => rfl⟩

/-- Text without quotes and parentheses is passed over. -/
theorem sealed_word {t : Text} (plain : t.all (fun c => !Literal.isQuote c && !isParen c) = true) :
    Sealed isParen t := by
  apply Sealed.of_forall
  intro c member
  simpa using List.all_eq_true.mp plain c member

/-- The names that take over a value are groups one by one. -/
theorem rowTexts_takeOver {names : List Text}
    (identifiers : forall name, name ∈ names -> Name.IsIdentifier name) :
    rowTexts (Text.join ", ".toList
      (names.map fun name => name ++ (" = VALUES".toList ++ inParens name))) = names := by
  induction names with
  | nil => rfl
  | cons name names ih =>
      have closed : Sealed isParen name :=
        (sealed_identifier (identifiers name List.mem_cons_self)).mono fun _ => isParen_of_isCut
      have later := ih fun other member => identifiers other (List.mem_cons_of_mem name member)
      have here : forall rest : Text,
          rowTexts (name ++ (" = VALUES".toList ++ inParens name) ++ rest) =
          name :: rowTexts rest := by
        intro rest
        have shape : name ++ (" = VALUES".toList ++ inParens name) ++ rest =
            name ++ (" = VALUES".toList ++ '(' :: (name ++ ')' :: rest)) := by
          simp only [inParens, List.append_assoc, List.cons_append, List.nil_append]
        rw [rowTexts, shape, RowSearch.rows_between closed,
          RowSearch.rows_between (sealed_word (by decide)), RowSearch.rows_group closed]
        rfl
      cases names with
      | nil =>
          have last := here []
          rw [List.append_nil] at last
          rw [List.map_singleton, Text.join_singleton, last]
          rfl
      | cons second names =>
          rw [List.map_cons, List.map_cons, Text.join_cons_cons, List.append_assoc, here]
          rw [List.map_cons] at later
          rw [rowTexts, RowSearch.rows_between (sealed_word (by decide))]
          exact congrArg _ later

/-- Every group of a clause is found, and nothing else. -/
theorem rowTexts_text (clause : ConflictClause) :
    rowTexts (' ' :: clause.text) = clause.groups := by
  have joined : forall names : List Text, (forall name, name ∈ names -> Name.IsIdentifier name) ->
      Sealed isParen (Text.join ", ".toList names) := by
    intro names identifiers
    apply Sealed.join sealed_comma_space
    intro name listed
    exact (sealed_identifier (identifiers name listed)).mono fun _ => isParen_of_isCut
  cases clause with
  | doNothing names nonempty identifiers =>
      have shape : ' ' :: text (.doNothing names nonempty identifiers) =
          (' ' :: "ON CONFLICT ".toList) ++
            '(' :: (Text.join ", ".toList names ++ ')' :: " DO NOTHING".toList) := by
        unfold text inParens
        simp only [List.cons_append, List.append_assoc, List.nil_append]
      have ending : RowSearch.start.rows " DO NOTHING".toList = [] := by decide
      rw [rowTexts, shape, RowSearch.rows_between (sealed_word (by decide)),
        RowSearch.rows_group (joined names identifiers), ending]
      rfl
  | takeOver names nonempty identifiers =>
      have skipped := RowSearch.rows_between (t := " ON DUPLICATE KEY UPDATE ".toList)
        (sealed_word (by decide))
      exact (skipped _).trans (rowTexts_takeOver identifiers)
  | assign settings nonempty proper =>
      have whole : Sealed isParen (Text.join ", ".toList
          (settings.map fun setting => setting.1 ++ (" = ".toList ++ setting.2))) := by
        apply Sealed.join sealed_comma_space
        intro part listed
        rcases List.mem_map.mp listed with ⟨setting, member, rfl⟩
        have name := sealed_identifier (proper setting member).1
        have value := (proper setting member).2.sealed
        exact (name.mono fun _ => isParen_of_isCut).append
          ((sealed_word (by decide)).append (value.mono fun _ => isParen_of_isCut))
      have skipped := RowSearch.rows_between (t := " ON DUPLICATE KEY UPDATE ".toList)
        (sealed_word (by decide))
      have passed := RowSearch.rows_between whole []
      rw [List.append_nil] at passed
      exact (skipped _).trans passed

theorem mapM_groups (clause : ConflictClause) :
    clause.groups.mapM cells = .ok clause.strayRows := by
  have row : forall names : List Text, (forall name, name ∈ names -> Name.IsIdentifier name) ->
      cells (Text.join ", ".toList names) = .ok (names.map Scalar.ofName) := by
    intro names identifiers
    rw [cells_join (fun name listed => (identifiers name listed).ne_nil)
      fun name listed => sealed_identifier (identifiers name listed)]
    have read := mapM_ok (g := id) fun name listed =>
      Scalar.ofText_identifier (identifiers name listed)
    rwa [List.map_id] at read
  cases clause with
  | doNothing names nonempty identifiers =>
      rw [groups, List.mapM_cons, row names identifiers]
      rfl
  | takeOver names nonempty identifiers =>
      have single : forall name, name ∈ names -> cells (id name) = .ok [Scalar.ofName name] := by
        intro name listed
        have alone := row [name] (by simpa using identifiers name listed)
        rwa [Text.join_singleton] at alone
      have read := mapM_ok single
      rwa [List.map_id] at read
  | assign settings nonempty proper => rfl

end ConflictClause

/-- What is read from an insertion whose values are followed by some more text. -/
theorem Listing.ofText_append (l : Listing) {rest : Text} {stray : List (List Scalar)}
    (read : (rowTexts rest).mapM cells = .ok stray) :
    ofText (l.statement ++ rest) = l.values.map fun values =>
      some ⟨l.table, l.columns, values ++ stray, none⟩ := by
  have whole : l.statement ++ rest =
      statementText l.table (Text.join ", ".toList l.columns) (l.valuesText ++ rest) := by
    unfold statement statementText
    simp only [List.append_assoc]
  have begins := head_join_inParens (l.rows.map (Text.join ", ".toList))
    (by simp [l.rows_ne_nil]) rest
  have spelled := spelling?_statementText l.table_identifier
    (not_mem_join_columns l.columns_identifier) begins
  have filled : l.table.isEmpty = false := List.isEmpty_eq_false_iff.mpr l.table_identifier.ne_nil
  have named := columnNames_join l.columns_ne_nil l.columns_identifier
  have cellsRead : (rowTexts (l.valuesText ++ rest)).mapM cells = l.values.map (· ++ stray) := by
    rw [l.rows_valuesText, List.mapM_append, l.mapM_cells, read]
    rfl
  rw [whole, Insert.ofText]
  simp only [valuesText] at spelled cellsRead ⊢
  simp only [spelled, l.table_identifier.qualifiedName_eq, filled, Bool.false_eq_true, if_false,
    cellsRead, named, Option.getD_some]
  cases l.values with
  | error e => rfl
  | ok values => rfl

/-- Where rows come from.  An insertion gives the rows that it lists, one for one.  With a clause
behind the list it gives the same rows, and one more for each group in parentheses of the clause;
there is none exactly where the clause sets columns to literals. -/
theorem rows_of_listing_and_clause (l : Listing) (clause : ConflictClause) :
    ofText l.statement = l.values.map (fun values => some ⟨l.table, l.columns, values, none⟩) ∧
      ofText (l.statement ++ ' ' :: clause.text) =
        l.values.map (fun values => some ⟨l.table, l.columns, values ++ clause.strayRows, none⟩) ∧
      (clause.strayRows = [] ↔
        exists settings nonempty proper, clause = .assign settings nonempty proper) := by
  refine ⟨?_, ?_, clause.strayRows_eq_nil_iff⟩
  · have nothing : (rowTexts []).mapM cells = .ok [] := rfl
    have alone := l.ofText_append nothing
    simpa only [List.append_nil] using alone
  · apply l.ofText_append
    rw [clause.rowTexts_text]
    exact clause.mapM_groups

end Insert
end SchemaAtlas
