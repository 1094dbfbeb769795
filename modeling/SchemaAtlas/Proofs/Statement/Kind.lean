import Mathlib.Data.List.Basic
import SchemaAtlas.Statement.Kind

namespace SchemaAtlas
namespace StatementKind

/-!
Kinds under what a parser promises.

A parser that never gives up tells the kind of every statement.  A parser that knows insertions by
their first two words tells them whatever follows, as long as the head reaches past these words.
-/

variable {parser : SqlParser}

theorem exists_ofParsed {s : SqlStatement} (listed : exists tokens, s.tokens = .ok tokens) :
    exists kind, ofParsed s = .ok kind := by
  rcases listed with ⟨tokens, same⟩
  simp only [ofParsed, same, Except.map]
  split
  · exact ⟨_, rfl⟩
  · split
    · exact ⟨_, rfl⟩
    · split
      · exact ⟨_, rfl⟩
      · exact ⟨_, rfl⟩

theorem exists_ofText (total : parser.Total) (limit : Int) (text : Text) :
    exists kind, ofText parser limit text = .ok kind := by
  rcases total (sliceTo text limit) with ⟨statements, parsed, listed⟩
  unfold ofText ofHead
  split
  · exact ⟨.other, rfl⟩
  · cases statements with
    | nil => exact ⟨.other, by simp only [parsed]⟩
    | cons s more =>
        simp only [parsed]
        exact exists_ofParsed (listed s List.mem_cons_self)

/-- A statement that begins as an insertion is one, whatever follows. -/
theorem ofText_insert (knows : parser.KnowsInsertions) {limit : Nat} (long : 12 ≤ limit)
    (rest : Text) : ofText parser limit ("INSERT INTO ".toList ++ rest) = .ok .insert := by
  have size : "INSERT INTO ".toList.length = 12 := rfl
  let whole := "INSERT INTO ".toList ++ rest
  have sliced : sliceTo whole limit =
      "INSERT INTO ".toList ++ rest.take (min limit whole.length - 12) := by
    change whole.take (min limit whole.length) = _
    rw [List.take_append, size, List.take_of_length_le]
    rw [List.length_append, size]
    omega
  have visible : forall more : Text, Text.isBlankText ("INSERT INTO ".toList ++ more) = false :=
    fun _ => rfl
  rcases knows (rest.take (min limit whole.length - 12)) with ⟨s, more, parsed, type⟩
  rw [ofText, sliced]
  simp only [ofHead, visible, parsed, ofParsed, type, beq_self_eq_true, if_true, Bool.false_eq_true,
    if_false]

end StatementKind
end SchemaAtlas
