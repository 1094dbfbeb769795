import SchemaAtlas.Proofs.Token.Placed

namespace SchemaAtlas
namespace Token

/-!
Bare words with a space in front of each.

Every word is one token, and the tokens stand where the words do.  So the piece of the text that
some of the tokens in a row take up is spelled by their words, with a space between neighbours.
-/

def spacedWords (words : List Text) : Text :=
  words.flatMap fun word => ' ' :: word

theorem spacedWords_append (words others : List Text) :
    spacedWords (words ++ others) = spacedWords words ++ spacedWords others :=
  List.flatMap_append

theorem cons_join (word : Text) (words : List Text) :
    ' ' :: Text.join [' '] (word :: words) = spacedWords (word :: words) := by
  induction words generalizing word with
  | nil => simp [spacedWords, Text.join_singleton]
  | cons next words ih =>
      rw [Text.join_cons_cons, List.append_assoc, List.singleton_append, ih]
      rfl

def wordForm (word : Text) : Form :=
  (wordKind word, word)

/-- The tokens are those of the words, which begin at a position. -/
inductive WordsAt : Nat -> List Text -> List Token -> Prop
  | nil (position : Nat) : WordsAt position [] []
  | cons {position : Nat} {word : Text} {words : List Text} {t : Token} {tokens : List Token}
      (formed : t.form = wordForm word) (begins : t.place.position = position + 1)
      (behind : WordsAt (position + (' ' :: word).length) words tokens) :
        WordsAt position (word :: words) (t :: tokens)

/-- The tokens are those of the words, which stand somewhere in the text. -/
def Spelled (body : Text) (words : List Text) (tokens : List Token) : Prop :=
  exists front rest, body = front ++ (spacedWords words ++ rest) ∧ WordsAt front.length words tokens

theorem scanFrom_word {word : Text} (bare : isBareWord word = true) {rest : Text}
    (broken : Broken rest) (place : Place) :
    scanFrom .keep place (word ++ rest) = ⟨wordKind word, word, place⟩ :: scanFrom .keep
      (place.after word) rest := by
  rcases lexeme_word bare rest broken with ⟨c, body, rfl, cut⟩
  rw [List.cons_append, scanFrom, cut]
  simp only [List.take_left, List.drop_left]
  rfl

/-- Words are read one by one, each where it stands. -/
theorem gives_words {words : List Text}
    (bare : forall word, word ∈ words -> isBareWord word = true) :
    Gives (spacedWords words) fun body tokens => Spelled body words tokens := by
  have each : forall front rest, Broken rest -> exists tokens, WordsAt front.length words tokens ∧
      scanFrom .keep (Place.start.after front) (spacedWords words ++ rest) =
        tokens ++ scanFrom .keep (Place.start.after (front ++ spacedWords words)) rest := by
    induction words with
    | nil =>
        intro front rest _
        refine ⟨[], .nil _, ?_⟩
        rw [spacedWords, List.flatMap_nil, List.append_nil]
        rfl
    | cons word words ih =>
        intro front rest broken
        have later := ih fun other member => bare other (List.mem_cons_of_mem word member)
        rcases later (front ++ ' ' :: word) rest broken with ⟨tokens, placed, scanned⟩
        have behind : Broken (spacedWords words ++ rest) := (broken_spaced id words).append broken
        let place := (Place.start.after front).step ' '
        have begins : place.position = front.length + 1 := by
          change ((Place.start.after front).after [' ']).position = _
          rw [position_after, position_after_start]
          rfl
        have moved : Place.start.after (front ++ ' ' :: word) = place.after word :=
          after_append .start front (' ' :: word)
        refine ⟨⟨wordKind word, word, place⟩ :: tokens, .cons rfl begins ?_, ?_⟩
        · rwa [List.length_append] at placed
        · have text : spacedWords (word :: words) ++ rest =
              ' ' :: (word ++ (spacedWords words ++ rest)) := by
            simp [spacedWords]
          have split : front ++ spacedWords (word :: words) =
              front ++ ' ' :: word ++ spacedWords words := by
            simp [spacedWords]
          rcases reads_blank (by decide : Text.isBlank ' ' = true)
            (word ++ (spacedWords words ++ rest))
            (Place.start.after front) with ⟨none, formed, skipped⟩
          obtain rfl : none = [] := List.map_eq_nil_iff.mp formed
          rw [text, split]
          refine skipped.trans ?_
          rw [List.nil_append]
          refine (scanFrom_word (bare word List.mem_cons_self) behind place).trans ?_
          rw [← moved, scanned]
          rfl
  intro front rest broken
  rcases each front rest broken with ⟨tokens, placed, scanned⟩
  exact ⟨tokens, ⟨front, rest, rfl, placed⟩, scanned⟩

namespace WordsAt

variable {position : Nat} {words others : List Text} {tokens : List Token}

theorem map_form (placed : WordsAt position words tokens) :
    tokens.map form = words.map wordForm := by
  induction placed with
  | nil => rfl
  | cons formed _ _ ih => rw [List.map_cons, List.map_cons, formed, ih]

theorem append_cases (placed : WordsAt position (words ++ others) tokens) :
    exists front behind, tokens = front ++ behind ∧
    WordsAt position words front ∧
      WordsAt (position + (spacedWords words).length) others behind := by
  induction words generalizing position tokens with
  | nil => exact ⟨[], tokens, rfl, .nil position, placed⟩
  | cons word words ih =>
      cases placed with
      | @cons _ _ _ t tokens formed begins later =>
          rcases ih later with ⟨front, behind, rfl, here, there⟩
          have moved : position + (spacedWords (word :: words)).length =
              position + (' ' :: word).length + (spacedWords words).length := by
            rw [Nat.add_assoc, ← List.length_append]
            rfl
          exact ⟨t :: front, behind, rfl, .cons formed begins here, moved ▸ there⟩

/-- The last token ends where the text of the words does. -/
theorem stop_getLastD (placed : WordsAt position words tokens) (nonempty : tokens ≠ [])
    (t : Token) : (tokens.getLastD t).stop = position + (spacedWords words).length := by
  induction placed generalizing t with
  | nil => exact absurd rfl nonempty
  | @cons position word words u tokens formed begins later ih =>
      have text : (spacedWords (word :: words)).length =
          (' ' :: word).length + (spacedWords words).length := by
        rw [← List.length_append]
        rfl
      rw [text]
      by_cases last : tokens = []
      · subst last
        cases later
        rw [List.getLastD_cons, List.getLastD_nil, Token.stop, begins, value_of_form formed]
        simp only [wordForm, spacedWords, List.flatMap_nil, List.length_cons, List.length_nil]
        omega
      · rw [List.getLastD_cons, ih last u]
        omega

end WordsAt

namespace Spelled

variable {body : Text} {words others : List Text} {tokens : List Token}

theorem map_form (spelled : Spelled body words tokens) : tokens.map form = words.map wordForm := by
  rcases spelled with ⟨front, rest, _, placed⟩
  exact placed.map_form

theorem append_cases (spelled : Spelled body (words ++ others) tokens) :
    exists front behind, tokens = front ++ behind ∧
    Spelled body words front ∧ Spelled body others behind := by
  rcases spelled with ⟨before, rest, rfl, placed⟩
  rcases placed.append_cases with ⟨front, behind, rfl, here, there⟩
  rw [← List.length_append] at there
  refine ⟨front, behind, rfl, ⟨before, spacedWords others ++ rest, ?_, here⟩,
    ⟨before ++ spacedWords words, rest, ?_, there⟩⟩
  · rw [spacedWords_append, List.append_assoc]
  · rw [spacedWords_append, List.append_assoc, List.append_assoc]

/-- The tokens take up their words. -/
theorem spannedText?_eq (spelled : Spelled body words tokens)
    (solid : forall word, word ∈ words -> Text.IsWord word) :
    Table.spannedText? body tokens = if words = [] then none else some (Text.join [' '] words) := by
  rcases spelled with ⟨front, rest, rfl, placed⟩
  cases placed with
  | nil => rfl
  | @cons _ word words t tokens formed begins later =>
      have ends := (WordsAt.cons formed begins later).stop_getLastD (List.cons_ne_nil t tokens) t
      have unpadded : Text.Unpadded (Text.join [' '] (word :: words)) := by
        refine Text.unpadded_join [' '] fun other member => ?_
        exact ⟨(solid other member).nonempty, Text.unpadded_of_forall (solid other member).solid⟩
      have text : front ++ (spacedWords (word :: words) ++ rest) =
          (front ++ [' ']) ++ (Text.join [' '] (word :: words) ++ rest) := by
        rw [← cons_join]
        simp
      have length : (spacedWords (word :: words)).length =
          (Text.join [' '] (word :: words)).length + 1 := by
        rw [← cons_join, List.length_cons]
      rw [text, spannedText?_eq, Text.trim_of_unpadded unpadded,
        if_neg (List.cons_ne_nil word words)]
      · rw [begins, List.length_append]
        rfl
      · rw [ends, length, List.length_append, List.length_singleton]
        omega

end Spelled

end Token
end SchemaAtlas
