import Mathlib
import SchemaAtlas.Engine.Head.Parser

namespace SchemaAtlas

/-!
What the parser of statement heads promises.

It never gives up, and it knows insertions by their first word.  The forms of pieces are tried in
order at the beginning of a statement.  None of those before the form of a word fits `INSERT` with a
space behind it, and the word is a keyword; so the statement is an insertion whatever its further
text is.
-/

namespace Head

/-- The first form that fits is that of a word. -/
theorem firstRule?_insert (rest : Text) :
    (firstRule? none ("INSERT INTO ".toList ++ rest)).map (fun found => (found.1.kind, found.2)) =
      some (wordKind, " INTO ".toList ++ rest) := by
  unfold firstRule?
  cbv

theorem wordKind_insert : wordKind "INSERT".toList = .keyword := by
  unfold wordKind isKeyword
  decide

theorem cut_insert (rest : Text) :
    cut none 'I' ("NSERT INTO ".toList ++ rest) =
      (⟨.keyword, "INSERT".toList⟩, " INTO ".toList ++ rest) := by
  rcases Option.map_eq_some_iff.mp (firstRule?_insert rest) with ⟨⟨rule, behind⟩, found, same⟩
  rcases Prod.mk.inj same with ⟨kind, rfl⟩
  change rule.kind = wordKind at kind
  have whole : 'I' :: ("NSERT INTO ".toList ++ rest) = "INSERT INTO ".toList ++ rest := rfl
  have size : ("INSERT INTO ".toList ++ rest).length - (" INTO ".toList ++ rest).length = 6 := by
    have long : "INSERT INTO ".toList.length = 12 := rfl
    have short : " INTO ".toList.length = 6 := rfl
    rw [List.length_append, List.length_append, long, short]
    omega
  have taken : ("INSERT INTO ".toList ++ rest).take 6 = "INSERT".toList := rfl
  simp only [cut, whole, found, size, taken, kind, wordKind_insert]

theorem first?_insert (rest : Text) :
    first? ("INSERT INTO ".toList ++ rest) = some ⟨.keyword, "INSERT".toList⟩ := by
  change firstFrom? none ('I' :: ("NSERT INTO ".toList ++ rest)) = _
  rw [firstFrom?]
  simp only [cut_insert]
  rfl

theorem parser_total : parser.Total := by
  intro text
  refine ⟨(statement? text).toList, rfl, ?_⟩
  intro s member
  rcases Option.map_eq_some_iff.mp (Option.mem_toList.mp member) with ⟨first, _, rfl⟩
  exact ⟨_, rfl⟩

theorem parser_knowsInsertions : parser.KnowsInsertions := by
  intro rest
  let pieces := opening ("INSERT INTO ".toList ++ rest).length ("INSERT INTO ".toList ++ rest)
  have parsed : statement? ("INSERT INTO ".toList ++ rest) =
      some ⟨"INSERT".toList, .ok (pieces.map Piece.token)⟩ := by
    have word : typeOf ⟨.keyword, "INSERT".toList⟩ pieces = "INSERT".toList := by
      have manipulates : Piece.isWord ⟨.keyword, "INSERT".toList⟩
          (manipulationWords ++ definitionWords) = true := by decide
      have upper : Text.upper "INSERT".toList = "INSERT".toList := by decide
      simp only [typeOf, manipulates, if_true, upper]
    rw [statement?, first?_insert]
    exact congrArg some (congrArg (SqlStatement.mk · _) word)
  exact ⟨_, [], congrArg (Except.ok ∘ Option.toList) parsed, rfl⟩

end Head
end SchemaAtlas
