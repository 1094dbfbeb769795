import SchemaAtlas.Proofs.Insert.Written
import SchemaAtlas.Proofs.Name.Dotted
import SchemaAtlas.Proofs.Phrase.Search
import SchemaAtlas.Proofs.Table.Alias
import SchemaAtlas.Proofs.Table.Body

namespace SchemaAtlas

/-!
The name of a table in its definition and in an insertion.

Definitions and insertions have readers of their own, and each of them finds the name by a form of
its own.  However the parts of a name are quoted, and whatever stands inside of the quotes, both
find the same table in the same schema.
-/

namespace QualifiedName

/-- The last part is the table, and the one before it the schema, if there is one. -/
theorem ofParts_eq {parts : List Text} (nonempty : parts ≠ []) :
    ofParts parts = ⟨parts.dropLast.getLast?, parts.getLast nonempty⟩ := by
  rcases List.eq_nil_or_concat parts with rfl | ⟨front, table, rfl⟩
  · exact absurd rfl nonempty
  · rcases List.eq_nil_or_concat front with rfl | ⟨others, schema, rfl⟩
    · rfl
    · simp [ofParts]

end QualifiedName

namespace Table

open Phrase

/-- A word and the white space behind it are no condition where no second word of one follows. -/
theorem unlessExists_append {t s : Text} (solid : Solid t)
    (apart : forall c, s.head? = some c -> ("if".toList.all fun w => !Text.sameLetter w c) = true)
    (unfollowed : letters "not".toList (Text.trimStart s) = []) : unlessExists (t ++ s) = [] := by
  have none : keyword "not".toList (Text.trimStart s) = [] := by
    rw [keyword, bind_apply, unfollowed]
    rfl
  apply keyword_bind_eq_nil solid apart
  rw [bind_apply, none]
  rfl

end Table

namespace Name.Dotted

variable (n : Dotted)

theorem parts_ne_nil : n.parts ≠ [] := by
  simp [parts]

def table : Text :=
  n.parts.getLast n.parts_ne_nil

/-- The part before the last one, if there is one, names the schema. -/
def schema? : Option Text :=
  n.parts.dropLast.getLast?

theorem table_ne_nil : n.table ≠ [] := by
  have each : forall part, part ∈ n.parts -> part ≠ [] := by
    intro part member
    rcases List.mem_cons.mp member with rfl | later
    · exact n.first.filled
    · rcases List.mem_map.mp later with ⟨next, _, rfl⟩
      exact next.2.filled
  exact each n.table (List.getLast_mem n.parts_ne_nil)

theorem qualifiedName_written : QualifiedName.ofText n.written = ⟨n.schema?, n.table⟩ := by
  rw [QualifiedName.ofText, n.parts_written, QualifiedName.ofParts_eq n.parts_ne_nil]
  rfl

def definition : Text :=
  "CREATE TABLE ".toList ++ (n.written ++ " (id INT)".toList)

/-- An insertion of one row into that table. -/
def insertion : Text :=
  Insert.statementText n.written "id" "(1)"

/-- The name may begin like a condition, but the condition does not go on. -/
theorem unlessExists_written (rest : Text) :
    Table.unlessExists (n.written ++ ' ' :: '(' :: rest) = [] := by
  rw [written, List.append_assoc, Part.written, Style.write]
  split
  · rename_i unquoted
    have facts : forall c, c ∈ n.first.text -> _ :=
      fun c member => n.first.admitted.plainFacts unquoted member
    apply Table.unlessExists_append
    · intro c member
      refine ⟨(facts c member).2.1, ?_⟩
      rintro rfl
      exact absurd (facts '(' member).1 (by decide)
    · intro c found
      rcases head_further n.further found with blank | rfl | behind
      · have unspaced : Phrase.unspaced "if".toList = true := by decide +kernel
        exact List.all_eq_true.mp unspaced c (Text.mem_charsIn blank)
      · decide
      · cases behind
        decide
    · cases further : n.further with
      | nil => exact Phrase.letters_eq_nil (by decide) _ _
      | cons next others =>
          have trimmed : Text.trimStart (writtenFurther (next :: others) ++ ' ' :: '(' :: rest) =
              '.' :: (next.1.behind ++
                (next.2.written ++ (writtenFurther others ++ ' ' :: '(' :: rest))) := by
            have text : writtenFurther (next :: others) ++ ' ' :: '(' :: rest = next.1.before ++
                '.' :: (next.1.behind ++
                  (next.2.written ++ (writtenFurther others ++ ' ' :: '(' :: rest))) := by
              simp [writtenFurther]
            rw [text, Text.trimStart, List.dropWhile_append_of_pos next.1.blankBefore]
            exact Text.dropWhile_of_head (Text.fails_at_head '.' _ (by decide))
          rw [trimmed]
          exact Phrase.letters_eq_nil (by decide) _ _
  · rename_i opening closing quoted
    have differs : Text.sameLetter 'i' opening = false := by
      cases style : n.first.style with
      | plain =>
          rw [style] at quoted
          cases quoted
      | _ =>
          rw [style] at quoted
          cases quoted
          decide
    exact Table.unlessExists_eq_nil differs _

theorem header?_definition : Table.header? n.definition = some (n.written, "(id INT)".toList) := by
  have named : Phrase.Prefers spelling
      (n.written ++ " (id INT)".toList) n.written " (id INT)".toList :=
    n.prefers_spelling (Text.fails_at_head ' ' _ (by decide)) rfl
  exact Table.header?_of_spelling (n.head_not_blank _)
    (Phrase.prefers_optional_absent (n.unlessExists_written _)) named

/-- The reader of insertions finds the table and its row. -/
theorem ofText_insertion :
    Insert.ofText n.insertion = .ok (some ⟨n.table, ["id"], [[.int 1]], n.schema?⟩) := by
  have spelled : Insert.spelling? n.insertion = some ⟨n.written, some "id".toList, "(1)".toList⟩ :=
    Insert.spelling?_of_named n.head_not_blank
      (fun rest => n.prefers_spelling (Text.fails_at_head ' ' _ (by decide)) rfl) (by decide)
      (Text.fails_at_head '(' _ (by decide))
  have filled : n.table.isEmpty = false := List.isEmpty_eq_false_iff.mpr n.table_ne_nil
  have row : (Insert.rowTexts "(1)").mapM Insert.cells = .ok [[.int 1]] := by decide +kernel
  have column : Insert.columnNames "id" = ["id".toList] := by decide +kernel
  simp only [Insert.ofText, spelled, n.qualifiedName_written, filled, Bool.false_eq_true,
    if_false, row, Option.getD_some, column]

/-- A qualified name is cut into its parts.  An insertion finds its last part as the table and
the part before it as the schema, and so does a definition, unless the types that are looked for
in its whole text stand in the name. -/
theorem definition_and_insertion_agree (index : Int) :
    Name.parts n.written = n.parts ∧
      (exists i, Insert.ofText n.insertion = .ok (some i) ∧ i.table = n.table ∧
        i.schema = n.schema?) ∧
      (Table.unifyTypes n.definition = n.definition ->
        exists e, Table.ofText n.definition index = .ok e ∧ e.name = n.table ∧
          e.schema = n.schema?) := by
  refine ⟨n.parts_written, ⟨_, n.ofText_insertion, rfl, rfl⟩, ?_⟩
  intro unchanged
  have found : Table.header? (Table.unifyTypes n.definition) =
      some (n.written, "(id INT)".toList) := by
    rw [unchanged, n.header?_definition]
  have declares : (Table.Draft.ofElements (Table.elements "(id INT)")).columns ≠ [] := by
    decide +kernel
  exact ⟨_, Table.ofText_of_spelling n.qualifiedName_written n.table_ne_nil found declares index,
    rfl, rfl⟩

/-! A schema that is named like the beginning of a condition, and a table whose name holds a dot and
a parenthesis. -/

theorem admits_if : Style.plain.Admits "if" := by
  change forall c, c ∈ "if".toList -> isIdentifierChar c = true ∨ c = '$'
  exact List.all_iff_forall_prop.mp (by decide)

theorem admits_quoted : Style.doubleQuotes.Admits "a.b (c" := by
  change '"' ∉ "a.b (c".toList
  decide

def partOfIf : Dotted where
  first := ⟨"if", .plain, by decide, admits_if⟩
  further :=
    [(⟨[' '], ['\t'], List.all_iff_forall_prop.mp (by decide),
        List.all_iff_forall_prop.mp (by decide)⟩,
      ⟨"a.b (c", .doubleQuotes, by decide, admits_quoted⟩)]

theorem partOfIf_read_alike :
    Name.parts "if .\t\"a.b (c\"" = ["if".toList, "a.b (c".toList] ∧
      (exists i, Insert.ofText "INSERT INTO if .\t\"a.b (c\" (id) VALUES (1)" = .ok (some i) ∧
        i.table = "a.b (c".toList ∧ i.schema = some "if".toList) ∧
      Table.unifyTypes "CREATE TABLE if .\t\"a.b (c\" (id INT)" =
        "CREATE TABLE if .\t\"a.b (c\" (id INT)".toList ∧
      exists e, Table.ofText "CREATE TABLE if .\t\"a.b (c\" (id INT)" 0 = .ok e ∧
        e.name = "a.b (c".toList ∧ e.schema = some "if".toList := by
  have name : partOfIf.written = "if .\t\"a.b (c\"".toList := by decide
  have definition : partOfIf.definition =
    "CREATE TABLE if .\t\"a.b (c\" (id INT)".toList := by decide
  have insertion : partOfIf.insertion =
    "INSERT INTO if .\t\"a.b (c\" (id) VALUES (1)".toList := by decide
  have unchanged : Table.unifyTypes "CREATE TABLE if .\t\"a.b (c\" (id INT)" =
      "CREATE TABLE if .\t\"a.b (c\" (id INT)".toList := by decide +kernel
  have read := partOfIf.definition_and_insertion_agree 0
  rw [name, definition, insertion] at read
  exact ⟨read.1, read.2.1, unchanged, read.2.2 unchanged⟩

end Name.Dotted
end SchemaAtlas
