import Mathlib.Data.List.Induction
import SchemaAtlas.Proofs.Token.Placed

namespace SchemaAtlas
namespace Token

/-!
A text and all of its tokens.

Nothing of a text is lost in its tokens but white space and comments.  Each token carries the text
between its two positions, the tokens stand one behind the other, and whatever lies in front of a
token, or behind the last one, is made of white space and comments.  So a text is its tokens with
gaps between them, and this is seen along the text, piece by piece, with the part that is read
already in front.
-/

/-! What lies between tokens. -/

/-- A piece between tokens, in view of what stands behind it: some blanks, a comment up to the
end of its line, or a comment up to the first mark that closes it. -/
inductive IsSpace : Text -> Text -> Prop
  | blanks {run behind : Text} (blank : forall c, c ∈ run -> Text.isBlank c = true) :
  IsSpace run behind
  | line {body behind : Text} (within : '\n' ∉ body)
      (ends : forall c, behind.head? = some c -> c = '\n') : IsSpace ('-' :: '-' :: body) behind
  | block {body behind : Text} (first : ¬ ['*', '/'] <:+: body ++ ['*']) :
      IsSpace ('/' :: '*' :: (body ++ ['*', '/'])) behind

/-- Pieces between tokens, one behind the other, in front of the next token. -/
inductive IsGap (behind : Text) : Text -> Prop
  | nil : IsGap behind []
  | cons {piece more : Text} (space : IsSpace piece (more ++ behind)) (gap : IsGap behind more) :
      IsGap behind (piece ++ more)

/-- The first end mark closes a comment. -/
theorem exists_of_commentEnd? {t : Text} {n : Nat} (found : Lexeme.commentEnd? t = some n) :
    exists body rest, t = body ++ ['*', '/'] ++ rest ∧ n = body.length + 2 ∧
      ¬ ['*', '/'] <:+: body ++ ['*'] := by
  fun_induction Lexeme.commentEnd? t generalizing n with
  | case1 => cases found
  | case2 => cases found
  | case3 c d rest here =>
      simp only [Bool.and_eq_true, beq_iff_eq] at here
      rcases here with ⟨rfl, rfl⟩
      exact ⟨[], rest, rfl, (Option.some.inj found).symm, by decide⟩
  | case4 c d rest elsewhere ih =>
      rcases Option.map_eq_some_iff.mp found with ⟨m, later, rfl⟩
      rcases ih later with ⟨body, behind, split, rfl, first⟩
      refine ⟨c :: body, behind, by rw [split]; rfl, rfl, ?_⟩
      rw [List.cons_append, List.infix_cons_iff, not_or]
      refine ⟨?_, first⟩
      -- an end mark one character further to the left would have been found before
      rintro ⟨more, begins⟩
      rcases List.cons.inj begins with ⟨rfl, slash⟩
      cases body with
      | nil => cases slash
      | cons e body =>
          obtain rfl : '/' = e := (List.cons.inj slash).1
          obtain rfl : d = '/' := (List.cons.inj split).1
          exact elsewhere rfl

theorem isSpace_of_comment {c : Char} {rest : Text} {n : Nat}
    (found : Lexeme.comment? c rest = some n) : IsSpace (c :: rest.take n) (rest.drop n) := by
  cases rest with
  | nil => cases found
  | cons d after =>
      simp only [Lexeme.comment?, Bool.and_eq_true, beq_iff_eq] at found
      split at found
      · rename_i dashes
        rcases dashes with ⟨rfl, rfl⟩
        obtain rfl := Option.some.inj found
        rw [Nat.add_comm, List.take_succ_cons, List.drop_succ_cons, Text.take_length_takeWhile,
          Text.drop_length_takeWhile]
        refine .line (fun member => absurd (List.mem_takeWhile_imp member) (by decide))
          fun e found => ?_
        simpa using Text.fails_of_head?_dropWhile found
      · split at found
        · rename_i marks
          rcases marks with ⟨rfl, rfl⟩
          rcases Option.map_eq_some_iff.mp found with ⟨m, closed, rfl⟩
          rcases exists_of_commentEnd? closed with ⟨body, behind, rfl, rfl, first⟩
          have size : body.length + 2 = (body ++ ['*', '/']).length := by simp
          rw [Nat.add_comm, List.take_succ_cons, List.drop_succ_cons, size, List.take_left,
            List.drop_left]
          exact .block first
        · cases found

/-! Which pieces are tokens. -/

/-- A piece in quotes is a literal or a name. -/
theorem quotedPiece?_ne {c : Char} {rest : Text} {kind other : TokenKind} {n : Nat}
    (found : Lexeme.quotedPiece? c rest = some (kind, n))
    (apart : other ∉ [.string, .quotedIdentifier]) : kind ≠ other := by
  grind [Lexeme.quotedPiece?, Option.map_eq_some_iff]

theorem punctuation?_ne_endOfText {c : Char} {kind : TokenKind}
    (found : Lexeme.punctuation? c = some kind) : kind ≠ .endOfText := by
  grind [Lexeme.punctuation?]

theorem wordKind_ne (word : Text) {other : TokenKind}
    (apart : other ∉ [.keyword, .typeName, .identifier]) : wordKind word ≠ other := by
  grind [wordKind]

/-- A piece is white space or a comment, or a word, or a token that does not mark the end. -/
theorem cut_cases {c : Char} {rest : Text} {kind : LexemeKind} {n : Nat}
    (cut : Lexeme.cut c rest = (kind, n)) :
    (kind = .comment ∨ kind = .blank) ∧ IsSpace (c :: rest.take n) (rest.drop n) ∨
      kind = .word ∨ exists k, kind = .token k ∧ k ≠ .endOfText := by
  cases comment : Lexeme.comment? c rest with
  | some length =>
      simp only [Lexeme.cut, comment] at cut
      cases cut
      exact .inl ⟨.inl rfl, isSpace_of_comment comment⟩
  | none =>
      cases blank : Text.isBlank c with
      | true =>
          simp only [Lexeme.cut, comment, blank, if_true] at cut
          cases cut
          refine .inl ⟨.inr rfl, .blanks fun d member => ?_⟩
          rw [Text.take_length_takeWhile] at member
          rcases List.mem_cons.mp member with rfl | inside
          · exact blank
          · exact List.mem_takeWhile_imp inside
      | false =>
          refine .inr ?_
          cases quoted : Lexeme.quotedPiece? c rest with
          | some piece =>
              simp only [Lexeme.cut, comment, blank, quoted, Bool.false_eq_true, if_false] at cut
              cases cut
              exact .inr ⟨piece.1, rfl, quotedPiece?_ne quoted (by decide)⟩
          | none =>
              simp only [Lexeme.cut, comment, blank, quoted, Bool.false_eq_true, if_false] at cut
              split at cut
              · cases cut
                exact .inr ⟨.number, rfl, by decide⟩
              · split at cut
                · rename_i marked
                  cases cut
                  exact .inr ⟨_, rfl, punctuation?_ne_endOfText marked⟩
                · split at cut
                  · cases cut
                    exact .inl rfl
                  · cases cut
                    exact .inr ⟨.operator, rfl, by decide⟩

/-! The tokens along a text. -/

/-- The rest of a text, with the tokens that it gives behind the part in front. -/
inductive Laid : Text -> Text -> List Token -> Prop
  | finish {front gap : Text} (skipped : IsGap [] gap) :
      Laid front gap [⟨.endOfText, [], Place.start.after (front ++ gap)⟩]
  | token {front gap value rest : Text} {kind : TokenKind} {others : List Token}
      (skipped : IsGap (value ++ rest) gap)
      (real : kind ≠ .endOfText) (filled : value ≠ [])
        (laid : Laid (front ++ (gap ++ value)) rest others) :
      Laid front (gap ++ (value ++ rest))
        (⟨kind, value, Place.start.after (front ++ gap)⟩ :: others)

/-- A piece between tokens makes the next gap longer. -/
theorem Laid.skip {front piece rest : Text} {tokens : List Token} (space : IsSpace piece rest)
    (laid : Laid (front ++ piece) rest tokens) : Laid front (piece ++ rest) tokens := by
  cases laid with
  | finish skipped =>
      rw [List.append_assoc]
      exact .finish (.cons (by rwa [List.append_nil]) skipped)
  | @token _ gap _ _ _ _ skipped real filled laid =>
      rw [List.append_assoc, ← List.append_assoc piece]
      refine .token (.cons space skipped) real filled ?_
      rwa [List.append_assoc, ← List.append_assoc piece] at laid

/-- A piece that is a token stands behind an empty gap. -/
theorem Laid.here {front value rest : Text} {kind : TokenKind} {others : List Token}
    (real : kind ≠ .endOfText) (filled : value ≠ []) (laid : Laid (front ++ value) rest others) :
    Laid front (value ++ rest) (⟨kind, value, Place.start.after front⟩ :: others) := by
  have first : Laid front ([] ++ (value ++ rest))
      (⟨kind, value, Place.start.after (front ++ [])⟩ :: others) :=
    .token .nil real filled laid
  rwa [List.append_nil] at first

/-- Along the text, each piece makes the gap longer or is the next token. -/
theorem laid_scanFrom {front : Text} {place : Place} (stands : place = Place.start.after front)
    (rest : Text) : Laid front rest (scanFrom .keep place rest) := by
  fun_induction scanFrom .keep place rest generalizing front with
  | case1 place =>
      have finish : Laid front [] [⟨.endOfText, [], Place.start.after (front ++ [])⟩] :=
        .finish .nil
      rwa [List.append_nil, ← stands] at finish
  | case2 place c rest piece value =>
      rename_i ih
      subst stands
      have later := ih (after_append .start front value).symm
      have split : c :: rest = value ++ rest.drop piece.2 := by
        rw [List.cons_append, List.take_append_drop]
      rw [split]
      rcases cut_cases (Prod.eta piece).symm with ⟨skipped, space⟩ | word | ⟨k, token, real⟩
      · have none : ofLexeme? .keep (Place.start.after front) piece.1 value = Option.none := by
          rcases skipped with comment | blank
          · rw [comment]
            rfl
          · rw [blank]
            rfl
        rw [none]
        exact later.skip space
      · rw [word]
        exact later.here (wordKind_ne _ (by decide)) (List.cons_ne_nil _ _)
      · rw [token]
        exact later.here real (List.cons_ne_nil _ _)

/-! What this says of each token, and of the tokens together. -/

/-- The token carries the text between its positions, and its line and column count
what stands in front of it. -/
structure Stands (t : Text) (token : Token) : Prop where
  carries : (t.take token.stop).drop token.place.position = token.value
  line : token.place.line = 1 + (t.take token.place.position).count '\n'
  column : token.place.column =
    1 + ((t.take token.place.position).reverse.takeWhile (· != '\n')).length

/-- From a position on, the tokens stand in order with gaps between them. -/
def Spaced (t : Text) : Nat -> List Token -> Prop
  | _, [] => True
  | position, token :: others =>
    position ≤ token.place.position ∧
      IsGap (t.drop token.place.position) ((t.take token.place.position).drop position) ∧
        Spaced t token.stop others

/-- The tokens of a text: all of it but white space and comments, and a token that marks the end. -/
structure Lossless (t : Text) (tokens : List Token) : Prop where
  ended : exists words last, tokens = words ++ [last] ∧ last.kind = .endOfText ∧ last.value = [] ∧
    last.place.position = t.length ∧
      forall word, word ∈ words -> word.kind ≠ .endOfText ∧ word.value ≠ []
  stands : forall token, token ∈ tokens -> Stands t token
  spaced : Spaced t 0 tokens

theorem line_after_start (t : Text) : (Place.start.after t).line = 1 + t.count '\n' := by
  induction t using List.reverseRecOn with
  | nil => rfl
  | append_singleton t c ih =>
      rw [after_append]
      change ((Place.start.after t).step c).line = _
      by_cases feed : c = '\n'
      · simp [Place.step, feed, ih]
        omega
      · simp [Place.step, feed, ih]

theorem column_after_start (t : Text) :
    (Place.start.after t).column = 1 + (t.reverse.takeWhile (· != '\n')).length := by
  induction t using List.reverseRecOn with
  | nil => rfl
  | append_singleton t c ih =>
      rw [after_append]
      change ((Place.start.after t).step c).column = _
      by_cases feed : c = '\n'
      · simp [Place.step, feed]
      · simp [Place.step, feed, ih]
        omega

/-- A token that stands behind a part of the text. -/
theorem stands_after (kind : TokenKind) (front value rest : Text) :
    Stands (front ++ (value ++ rest)) ⟨kind, value, Place.start.after front⟩ := by
  have before : (front ++ (value ++ rest)).take (Place.start.after front).position = front := by
    rw [position_after_start, List.take_left]
  refine ⟨?_, ?_, ?_⟩
  · change ((front ++ (value ++ rest)).take
      ((Place.start.after front).position + value.length)).drop
      (Place.start.after front).position = value
    rw [position_after_start, List.take_length_add_append, List.drop_left, List.take_left]
  · rw [before, line_after_start]
  · rw [before, column_after_start]

namespace Laid

variable {front rest : Text} {tokens : List Token}

theorem stands (laid : Laid front rest tokens) :
    forall token, token ∈ tokens -> Stands (front ++ rest) token := by
  induction laid with
  | @finish front gap skipped =>
      intro token member
      obtain rfl := List.mem_singleton.mp member
      have last := stands_after .endOfText (front ++ gap) [] []
      rwa [List.append_nil, List.append_nil] at last
  | @token front gap value rest kind others skipped real filled laid ih =>
      intro token member
      rw [← List.append_assoc]
      rcases List.mem_cons.mp member with rfl | later
      · exact stands_after kind (front ++ gap) value rest
      · have there := ih token later
        rwa [List.append_assoc, List.append_assoc, ← List.append_assoc front] at there

/-- The gap between two parts of the text, found by the positions. -/
theorem isGap_here (front : Text) {gap rest : Text} (skipped : IsGap rest gap) :
    front.length ≤ (Place.start.after (front ++ gap)).position ∧
      IsGap ((front ++ (gap ++ rest)).drop (Place.start.after (front ++ gap)).position)
        (((front ++ (gap ++ rest)).take (Place.start.after (front ++ gap)).position).drop
          front.length) := by
  rw [position_after_start, ← List.append_assoc, List.take_left, List.drop_left, List.drop_left]
  exact ⟨by rw [List.length_append]; omega, skipped⟩

theorem spaced (laid : Laid front rest tokens) : Spaced (front ++ rest) front.length tokens := by
  induction laid with
  | @finish front gap skipped =>
      have here := isGap_here front skipped
      rw [List.append_nil] at here
      exact ⟨here.1, here.2, trivial⟩
  | @token front gap value rest kind others skipped real filled laid ih =>
      have here := isGap_here front skipped
      refine ⟨here.1, here.2, ?_⟩
      have behind : stop ⟨kind, value, Place.start.after (front ++ gap)⟩ =
          (front ++ (gap ++ value)).length := by
        change (Place.start.after (front ++ gap)).position + value.length = _
        rw [position_after_start, ← List.length_append, List.append_assoc]
      rw [behind]
      rwa [List.append_assoc, List.append_assoc] at ih

theorem ended (laid : Laid front rest tokens) :
    exists words last, tokens = words ++ [last] ∧ last.kind = .endOfText ∧ last.value = [] ∧
      last.place.position = (front ++ rest).length ∧
      forall word, word ∈ words -> word.kind ≠ .endOfText ∧ word.value ≠ [] := by
  induction laid with
  | @finish front gap skipped => exact ⟨[], _, rfl, rfl, rfl, position_after_start _, by simp⟩
  | @token front gap value rest kind others skipped real filled laid ih =>
      rcases ih with ⟨words, last, rfl, isEnd, empty, position, before⟩
      refine ⟨_ :: words, last, rfl, isEnd, empty, ?_, ?_⟩
      · rw [position]
        simp only [List.append_assoc]
      · intro word member
        rcases List.mem_cons.mp member with rfl | later
        · exact ⟨real, filled⟩
        · exact before word later

end Laid

/-- No text is lost between its tokens, and every token tells where it stands. -/
theorem lossless_scan (t : Text) : Lossless t (scan t .keep) := by
  have laid : Laid [] t (scan t .keep) := laid_scanFrom rfl t
  exact ⟨laid.ended, laid.stands, laid.spaced⟩

end Token
end SchemaAtlas
