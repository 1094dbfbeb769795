import SchemaAtlas.Proofs.Token.Placed
import SchemaAtlas.Proofs.Token.Span

namespace SchemaAtlas
namespace Token

/-!
Whole texts: no literal, quoted name or comment of theirs is open at the end.

In front of every break such a text gives the tokens that it gives by itself, and then reading goes
on behind it.  So wherever it stands in another text, its tokens show the same, and they stand as
far from its beginning.
-/

theorem scanFrom_ne_nil (place : Place) (t : Text) : scanFrom .keep place t ≠ [] := by
  cases t with
  | nil =>
      rw [scanFrom]
      exact List.cons_ne_nil _ _
  | cons c rest =>
      rw [scanFrom]
      exact List.append_ne_nil_of_right_ne_nil _ (scanFrom_ne_nil _ _)
termination_by t.length
decreasing_by
  simp only [List.length_drop, List.length_cons]
  omega

/-- The tokens of a text, without the one that marks its end. -/
def ownTokens (place : Place) (t : Text) : List Token :=
  (scanFrom .keep place t).dropLast

theorem ownTokens_nil (place : Place) : ownTokens place [] = [] := by
  rw [ownTokens, scanFrom]
  rfl

/-- In front of every break, the text gives its own tokens, and then reading goes on behind it. -/
def Whole (t : Text) : Prop :=
  forall place rest, Broken rest ->
    scanFrom .keep place (t ++ rest) = ownTokens place t ++ scanFrom .keep (place.after t) rest

namespace Whole

theorem nil : Whole [] := by
  intro place rest _
  rw [ownTokens_nil]
  rfl

/-- One text and then another that begins with a break. -/
theorem append {first second : Text} (whole : Whole first) (begins : Broken second)
    (further : Whole second) : Whole (first ++ second) := by
  intro place rest broken
  have own : ownTokens place (first ++ second) = ownTokens place first ++ ownTokens
      (place.after first) second := by
    rw [ownTokens, whole place second begins, List.dropLast_append_of_ne_nil (scanFrom_ne_nil _ _)]
    rfl
  rw [own, List.append_assoc, whole place _ (begins.append broken), further _ rest broken,
    after_append, List.append_assoc]

/-- A character that is read alike whatever stands behind it. -/
theorem cons {c : Char} {t : Text} {tokens : Place -> List Token}
    (alone : forall place rest, scanFrom .keep place (c :: rest) =
      tokens place ++ scanFrom .keep (place.step c) rest)
    (whole : Whole t) : Whole (c :: t) := by
  intro place rest broken
  have own : ownTokens place (c :: t) = tokens place ++ ownTokens (place.step c) t := by
    rw [ownTokens, alone, List.dropLast_append_of_ne_nil (scanFrom_ne_nil _ _)]
    rfl
  rw [List.cons_append, alone, whole _ rest broken, own, List.append_assoc]
  rfl

theorem blank_cons {c : Char} (blank : Text.isBlank c = true) {t : Text} (whole : Whole t) :
    Whole (c :: t) := by
  apply @cons c t fun _ => []
  · intro place rest
    rcases reads_blank blank rest place with ⟨none, formed, scanned⟩
    obtain rfl : none = [] := List.map_eq_nil_iff.mp formed
    exact scanned
  · exact whole

theorem mark_cons {mark : Char × TokenKind} (listed : mark ∈ marks) {t : Text} (whole : Whole t) :
    Whole (mark.1 :: t) := by
  apply @cons mark.1 t fun place => [⟨mark.2, [mark.1], place⟩]
  · intro place rest
    rw [scanFrom, cut_mark listed]
    rfl
  · exact whole

/-- Two texts with a space between them. -/
theorem pair {first second : Text} (whole : Whole first) (further : Whole second) :
    Whole (first ++ ' ' :: second) :=
  whole.append (broken_cons (by decide) second) (further.blank_cons (by decide))

theorem parens {t : Text} (whole : Whole t) : Whole ('(' :: (t ++ [')'])) := by
  have closing : Whole [')'] := mark_cons (by decide : (')', TokenKind.closeParen) ∈ marks) nil
  exact mark_cons (by decide : ('(', TokenKind.openParen) ∈ marks)
    (whole.append (broken_cons (by decide) []) closing)

end Whole

/-- A piece that every break ends is whole. -/
theorem IsLexeme.whole {t : Text} {kind : LexemeKind} (lexeme : IsLexeme t kind) : Whole t := by
  intro place rest broken
  rcases lexeme rest broken with ⟨c, body, rfl, cut⟩
  rcases lexeme [] broken_nil with ⟨d, more, same, alone⟩
  obtain ⟨rfl, rfl⟩ := List.cons.inj same
  rw [List.append_nil] at alone
  rw [List.cons_append, ownTokens, scanFrom, cut, scanFrom, alone]
  simp only [List.take_left, List.drop_left, List.take_length, List.drop_length]
  rw [List.dropLast_append_of_ne_nil (scanFrom_ne_nil _ _), scanFrom]
  simp

/-- What a text gives behind every text it gives by itself. -/
theorem Gives.ownTokens {t : Text} {P : Text -> List Token -> Prop} (gives : Gives t P) :
    P t (ownTokens .start t) := by
  rcases gives [] [] broken_nil with ⟨tokens, holds, scanned⟩
  have alone : scanFrom .keep .start t = tokens ++ scanFrom .keep (Place.start.after t) [] := by
    rwa [List.append_nil] at scanned
  have own : Token.ownTokens .start t = tokens := by
    rw [Token.ownTokens, alone,
      List.dropLast_append_of_ne_nil (scanFrom_ne_nil _ _), ← Token.ownTokens, ownTokens_nil,
      List.append_nil]
  rw [own]
  rwa [List.nil_append, List.append_nil] at holds

/-! Where the tokens stand. -/

/-- The token as far from the beginning of a text as it is from a position, with
lines and columns left out. -/
def back (position : Nat) (t : Token) : Token :=
  ⟨t.kind, t.value, ⟨t.place.position - position, 0, 0⟩⟩

/-- Reading from a later place gives the same tokens further behind. -/
theorem map_back_scanFrom {place other : Place} {distance : Nat}
    (later : other.position = distance + place.position) (t : Text) :
    (scanFrom .keep other t).map (back distance) = (scanFrom .keep place t).map (back 0) := by
  fun_induction scanFrom .keep place t generalizing other with
  | case1 place =>
      rw [scanFrom]
      simp [back, later]
  | case2 place c rest piece value =>
      rename_i ih
      have here : (ofLexeme? .keep other piece.1 value).toList.map (back distance) =
          (ofLexeme? .keep place piece.1 value).toList.map (back 0) := by
        cases piece.1 with
        | comment => rfl
        | blank => rfl
        | word => simp [ofLexeme?, back, later]
        | token kind => simp [ofLexeme?, back, later]
      have further : (other.after value).position = distance + (place.after value).position := by
        rw [position_after, position_after, later, Nat.add_assoc]
      rw [scanFrom, List.map_append, List.map_append, here, ih further]

/-- The tokens of a text end within it. -/
theorem stop_le_of_mem_ownTokens {front t : Text} {token : Token}
    (member : token ∈ ownTokens (Place.start.after front) t) :
    front.length ≤ token.place.position ∧ token.stop ≤ front.length + t.length := by
  have laid : Laid front t (scanFrom .keep (Place.start.after front) t) := laid_scanFrom rfl t
  rcases ordered_of_spaced laid.spaced with ⟨ordered, behind⟩
  rcases laid.ended with ⟨words, last, scanned, _, _, position, _⟩
  rw [ownTokens, scanned, List.dropLast_concat] at member
  rw [scanned] at ordered behind
  have before := (List.pairwise_append.mp ordered).2.2 token member last
    (List.mem_singleton_self last)
  rw [position, List.length_append] at before
  exact ⟨behind token (List.mem_append_left _ member), before⟩

theorem Whole.gives {t : Text} (whole : Whole t) :
    Gives t fun body tokens => exists front rest, body = front ++ (t ++ rest) ∧
      tokens.map (back front.length) = (ownTokens .start t).map (back 0) ∧
      forall token, token ∈ tokens -> front.length ≤ token.place.position ∧
        token.stop ≤ front.length + t.length := by
  intro front rest broken
  have later : (Place.start.after front).position = front.length + Place.start.position :=
    position_after_start front
  refine ⟨ownTokens (Place.start.after front) t, ⟨front, rest, rfl, ?_, ?_⟩, ?_⟩
  · rw [ownTokens, ownTokens, List.map_dropLast, map_back_scanFrom later, List.map_dropLast]
  · exact fun token member => stop_le_of_mem_ownTokens member
  · rw [whole _ rest broken, after_append]

end Token
end SchemaAtlas
