import SchemaAtlas.Proofs.Token.Lossless
import SchemaAtlas.Table.Read

namespace SchemaAtlas
namespace Token

/-!
Some of the tokens of a text.

The groups of a body hold tokens of its text in the order of the text.  So the piece of text that
some of them take up begins with the first of them, whatever the others are.
-/

/-- No token reaches into a later one. -/
def Ordered (tokens : List Token) : Prop :=
  tokens.Pairwise fun first second => first.stop ≤ second.place.position

theorem ordered_of_spaced {t : Text} {position : Nat} {tokens : List Token}
    (spaced : Spaced t position tokens) :
    Ordered tokens ∧ forall token, token ∈ tokens -> position ≤ token.place.position := by
  induction tokens generalizing position with
  | nil => exact ⟨List.Pairwise.nil, fun token member => nomatch member⟩
  | cons first others ih =>
      rcases spaced with ⟨behind, _, later⟩
      rcases ih later with ⟨ordered, following⟩
      refine ⟨List.pairwise_cons.mpr ⟨following, ordered⟩, ?_⟩
      intro token member
      rcases List.mem_cons.mp member with rfl | inOthers
      · exact behind
      · have next := following token inOthers
        have grown : first.place.position ≤ first.stop := Nat.le_add_right _ _
        omega

theorem ordered_scan (t : Text) : Ordered (scan t .keep) :=
  (ordered_of_spaced (lossless_scan t).spaced).1

/-! Parts of a list of tokens. -/

theorem sublist_of_mem_pieces {depth : Int} {tokens group : List Token}
    (member : group ∈ pieces depth tokens) : group.Sublist tokens := by
  induction tokens generalizing depth group with
  | nil =>
      rw [List.mem_singleton.mp member]
  | cons t rest ih =>
      rw [pieces] at member
      split at member
      · rcases List.mem_cons.mp member with rfl | later
        · exact List.nil_sublist _
        · exact (ih later).cons t
      · cases inner : pieces (depth + nesting t) rest with
        | nil =>
            rw [inner] at member
            rw [List.mem_singleton.mp member]
            exact (List.nil_sublist rest).cons_cons t
        | cons first others =>
            rw [inner] at member
            rcases List.mem_cons.mp member with rfl | later
            · exact (ih (inner ▸ List.mem_cons_self)).cons_cons t
            · exact (ih (inner ▸ List.mem_cons_of_mem first later)).cons t

theorem sublist_of_mem_groups {tokens group : List Token} (member : group ∈ groups tokens) :
    group.Sublist tokens :=
  sublist_of_mem_pieces (List.mem_filter.mp member).1

theorem sublist_bodyTokens (tokens : List Token) : (Table.bodyTokens tokens).Sublist tokens := by
  unfold Table.bodyTokens
  split
  · exact (List.drop_sublist 1 _).trans (List.take_sublist _ tokens)
  · exact (List.drop_sublist 1 _).trans (List.dropLast_sublist tokens)

theorem afterParens_suffix (tokens : List Token) : Table.afterParens tokens <:+ tokens := by
  unfold Table.afterParens
  split
  · exact List.drop_suffix _ tokens
  · exact List.nil_suffix

theorem skipParens_suffix (tokens : List Token) : Table.skipParens tokens <:+ tokens := by
  cases tokens with
  | nil => exact List.suffix_rfl
  | cons t rest =>
      rw [Table.skipParens]
      split
      · exact (afterParens_suffix rest).trans (List.suffix_cons t rest)
      · exact List.suffix_rfl

theorem typeParams_suffix (tokens : List Token) : (Table.typeParams tokens).2 <:+ tokens := by
  cases tokens with
  | nil => exact List.suffix_rfl
  | cons t rest =>
      rw [Table.typeParams]
      split
      · exact (afterParens_suffix rest).trans (List.suffix_cons t rest)
      · exact List.suffix_rfl

/-! Parentheses. -/

/-- Only an opening parenthesis is cut as one. -/
theorem eq_of_cut_openParen {c : Char} {rest : Text} {n : Nat}
    (cut : Lexeme.cut c rest = (.token .openParen, n)) : c = '(' ∧ n = 0 := by
  have opens : Lexeme.punctuation? c = some .openParen -> c = '(' := by grind [Lexeme.punctuation?]
  unfold Lexeme.cut at cut
  split at cut
  · cases cut
  · split at cut
    · cases cut
    · split at cut
      · rename_i quoted
        cases cut
        exact absurd rfl (quotedPiece?_ne quoted (by decide))
      · split at cut
        · cases cut
        · split at cut
          · rename_i marked
            cases cut
            exact ⟨opens marked, rfl⟩
          · split at cut
            · cases cut
            · cases cut

/-- The opening parentheses of a text show themselves. -/
theorem value_of_openParen {t : Text} {token : Token} (member : token ∈ scan t .keep)
    (opens : token.kind = .openParen) : token.value = ['('] := by
  have along : forall place (rest : Text), token ∈ scanFrom .keep place rest ->
      token.value = ['('] := by
    intro place rest
    fun_induction scanFrom .keep place rest with
    | case1 place =>
        intro member
        rw [List.mem_singleton.mp member] at opens
        cases opens
    | case2 place c rest piece value ih =>
        intro member
        rcases List.mem_append.mp member with here | later
        · cases kind : piece.1 with
          | comment => rw [kind] at here; cases here
          | blank => rw [kind] at here; cases here
          | word =>
              rw [kind] at here
              rw [List.mem_singleton.mp here] at opens
              exact absurd opens (wordKind_ne _ (by decide))
          | token k =>
              rw [kind] at here
              rw [List.mem_singleton.mp here] at opens ⊢
              have cut : Lexeme.cut c rest = (.token .openParen, piece.2) := by
                rw [← show k = .openParen from opens, ← kind]
              rcases eq_of_cut_openParen cut with ⟨rfl, none⟩
              change '(' :: rest.take piece.2 = ['(']
              rw [none]
              rfl
        · exact ih later
  exact along Place.start t member

/-! Spans. -/

/-- Two adjacent slices are one slice. -/
theorem slice_append {α : Type} (l : List α) {p k m : Nat} (first : p ≤ k) (second : k ≤ m) :
    (l.take k).drop p ++ (l.take m).drop k = (l.take m).drop p := by
  have sizes : m - p = (k - p) + (m - k) := by omega
  have behind : (l.drop p).drop (k - p) = l.drop k := by
    rw [List.drop_drop, Nat.add_sub_cancel' first]
  rw [List.drop_take, List.drop_take, List.drop_take, sizes, List.take_add, behind]

/-- The piece of text that ordered tokens take up begins with the first of them. -/
theorem exists_spannedText? {body : Text} {first : Token} {others : List Token}
    (stands : Stands body first) (ordered : Ordered (first :: others)) :
    exists more, more <+: body.drop first.stop ∧
      Table.spannedText? body (first :: others) = some (Text.trim (first.value ++ more)) := by
  let last := (first :: others).getLastD first
  have grown : forall t : Token, t.place.position ≤ t.stop := fun t => Nat.le_add_right _ _
  have ends : first.stop ≤ last.stop := by
    have found : last = (first :: others).getLast (List.cons_ne_nil _ _) := by
      simp [last, List.getLastD_eq_getLast?, List.getLast?_eq_some_getLast]
    rcases List.mem_cons.mp (found ▸ List.getLast_mem (List.cons_ne_nil _ _)) with same | inOthers
    · rw [same]
    · exact ((List.pairwise_cons.mp ordered).1 last inOthers).trans (grown last)
  have cut := slice_append body (grown first) ends
  rw [stands.carries] at cut
  refine ⟨(body.take last.stop).drop first.stop, ?_, ?_⟩
  · rw [List.drop_take]
    exact List.take_prefix _ _
  · rw [cut]
    rfl

end Token
end SchemaAtlas
