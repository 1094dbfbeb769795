import SchemaAtlas.Name.Snake
import SchemaAtlas.Proofs.Name

namespace SchemaAtlas
namespace Name

/-!
The canonical form of names.

Every name has one, and a name in snake case is its own.  What the steps on the way look for is no
longer there in their result: it has no hyphens, no capital letters and nothing to be left out, and
its underscores are where the spaces are that the steps put between words.  Nor do the steps lose a
letter or a digit of ASCII, or change their order.
-/

/-- A character of a word in snake case: a small letter or a digit of ASCII. -/
def isSnakeChar (c : Char) : Bool :=
  isSmall c || c.isDigit

/-- A word in snake case. -/
structure IsSnakeWord (word : Text) : Prop where
  nonempty : word ≠ []
  chars : forall c, c ∈ word -> isSnakeChar c = true

/-- A text in snake case: words with one underscore between neighbours. -/
def IsSnake (t : Text) : Prop :=
  exists words : List Text, (forall word, word ∈ words -> IsSnakeWord word) ∧
    t = Text.join ['_'] words

/-! Characters. -/

/-- What is checked of ASCII: an alphanumeric character becomes one of snake case, and
one of snake case stays. -/
structure AsciiFacts : Prop where
  becomes : forall n, n < 0x80 -> (Char.ofNat n).isAlphanum = true ->
    isSnakeChar (Char.ofNat n).toLower = true
  stays : forall n, n < 0x80 -> isSnakeChar (Char.ofNat n) = true ->
    isCapital (Char.ofNat n) = false ∧ (Char.ofNat n).toLower = Char.ofNat n

theorem asciiFacts : AsciiFacts where
  becomes := by decide
  stays := by decide

theorem ascii_of_isAlphanum {c : Char} (alphanumeric : c.isAlphanum = true) : c.toNat < 0x80 := by
  have bounds := identifierChar_bounds (Bool.or_eq_true_iff.mpr (Or.inl alphanumeric))
  omega

theorem isSnakeChar_toLower {c : Char} (alphanumeric : c.isAlphanum = true) :
    isSnakeChar c.toLower = true := by
  have here := asciiFacts.becomes c.toNat (ascii_of_isAlphanum alphanumeric)
  rw [Char.ofNat_toNat] at here
  exact here alphanumeric

section
variable {c : Char} (snakeChar : isSnakeChar c = true)
include snakeChar

theorem isAlphanum_of_isSnakeChar : c.isAlphanum = true := by
  rcases Bool.or_eq_true_iff.mp snakeChar with small | digit
  · have letter : c.isAlpha = true := Bool.or_eq_true_iff.mpr (.inr small)
    exact Bool.or_eq_true_iff.mpr (.inl letter)
  · exact Bool.or_eq_true_iff.mpr (.inr digit)

theorem ascii_of_isSnakeChar : c.toNat < 0x80 :=
  ascii_of_isAlphanum (isAlphanum_of_isSnakeChar snakeChar)

theorem stays_of_isSnakeChar : isCapital c = false ∧ c.toLower = c := by
  have here := asciiFacts.stays c.toNat (ascii_of_isSnakeChar snakeChar)
  rw [Char.ofNat_toNat] at here
  exact here snakeChar

theorem ne_of_isSnakeChar {d : Char} (outside : d.isAlphanum = false) : c ≠ d := by
  rintro rfl
  rw [isAlphanum_of_isSnakeChar snakeChar] at outside
  cases outside

end

/-! What comes out of the steps. -/

/-- The letters and digits of a name in lower case, with a space wherever a word may end. -/
def lowered (name : Text) : Text :=
  ((apart (spaced name)).filter isKept).map Char.toLower

theorem cases_of_mem_lowered {name : Text} {c : Char} (member : c ∈ lowered name) :
    isSnakeChar c = true ∨ c = ' ' := by
  rcases List.mem_map.mp member with ⟨d, inSpaced, rfl⟩
  rcases Bool.or_eq_true_iff.mp (List.mem_filter.mp inSpaced).2 with alphanumeric | space
  · exact .inl (isSnakeChar_toLower alphanumeric)
  · rw [beq_iff_eq.mp space]
    exact .inr (by decide)

theorem isSnakeWord_of_mem_snakeWords {name word : Text} (member : word ∈ snakeWords name) :
    IsSnakeWord word := by
  rcases List.mem_filter.mp member with ⟨piece, filled⟩
  refine ⟨by simpa using filled, fun c inside => ?_⟩
  rcases Text.mem_of_mem_splitWhere piece c inside with ⟨inLowered, solid⟩
  exact (cases_of_mem_lowered inLowered).resolve_right (beq_eq_false_iff_ne.mp solid)

theorem isSnake_snake (name : Text) : IsSnake (snake name) :=
  ⟨snakeWords name, fun _ member => isSnakeWord_of_mem_snakeWords member, rfl⟩

/-- A name in snake case has no character but those of its words and the underscore. -/
theorem cases_of_mem_snake {name : Text} {c : Char} (member : c ∈ snake name) :
    isSnakeChar c = true ∨ c = '_' := by
  rcases Text.mem_join member with inSeparator | ⟨word, listed, inWord⟩
  · exact .inr (List.mem_singleton.mp inSeparator)
  · exact .inl ((isSnakeWord_of_mem_snakeWords listed).chars c inWord)

/-! What the steps leave alone. -/

theorem apart_of_forall {t : Text} (small : forall c, c ∈ t -> isCapital c = false) :
    apart t = t := by
  fun_induction apart t with
  | case1 => rfl
  | case2 c => rfl
  | case3 c d rest met ih =>
      have noCapital := small d (List.mem_cons_of_mem c List.mem_cons_self)
      simp [noCapital] at met
  | case4 c d rest other ih => rw [ih fun e member => small e (List.mem_cons_of_mem c member)]

section
variable {words : List Text} (each : forall word, word ∈ words -> IsSnakeWord word)
include each

theorem spaced_join : spaced (Text.join ['_'] words) = Text.join [' '] words := by
  have same : forall word, word ∈ words ->
      word.map (fun c => if c == '_' || c == '-' then ' ' else c) = word := by
    intro word member
    refine (List.map_congr_left fun c inside => ?_).trans (List.map_id word)
    have snakeChar := (each word member).chars c inside
    have noUnderscore : c ≠ '_' := ne_of_isSnakeChar snakeChar (by decide)
    have noHyphen : c ≠ '-' := ne_of_isSnakeChar snakeChar (by decide)
    simp [noUnderscore, noHyphen]
  rw [spaced, Text.map_join]
  exact congrArg (Text.join [' ']) ((List.map_congr_left same).trans (List.map_id words))

theorem lowered_join : lowered (Text.join ['_'] words) = Text.join [' '] words := by
  have stays : forall c, c ∈ Text.join [' '] words -> isCapital c = false ∧ isKept c = true ∧
      c.toLower = c := by
    intro c member
    rcases Text.mem_join member with space | ⟨word, listed, inside⟩
    · rw [List.mem_singleton.mp space]
      decide
    · have snakeChar := (each word listed).chars c inside
      rcases stays_of_isSnakeChar snakeChar with ⟨noCapital, lower⟩
      exact ⟨noCapital, by simp [isKept, isAlphanum_of_isSnakeChar snakeChar], lower⟩
  rw [lowered, spaced_join each, apart_of_forall fun c member => (stays c member).1,
    List.filter_eq_self.mpr fun c member => (stays c member).2.1]
  exact (List.map_congr_left fun c member => (stays c member).2.2).trans (List.map_id _)

theorem snakeWords_join : snakeWords (Text.join ['_'] words) = words := by
  rw [snakeWords, ← lowered, lowered_join each]
  cases words with
  | nil => rfl
  | cons first rest =>
      have uncut : forall word, word ∈ first :: rest ->
          forall c, c ∈ word -> (c == ' ') = false := by
        intro word member c inside
        exact beq_eq_false_iff_ne.mpr
          (ne_of_isSnakeChar ((each word member).chars c inside) (by decide))
      have split : Text.splitOn ' ' (Text.join [' '] (first :: rest)) = first :: rest :=
        @Text.splitWhere_join (· == ' ') ' ' first rest (beq_self_eq_true ' ') uncut
      rw [split]
      exact List.filter_eq_self.mpr fun word member => by simp [(each word member).nonempty]

end

theorem snake_of_isSnake {t : Text} (isSnake : IsSnake t) : snake t = t := by
  rcases isSnake with ⟨words, each, rfl⟩
  rw [snake, snakeWords_join each]

/-! What the steps keep. -/

theorem filter_spaced (t : Text) :
    (spaced t).filter Char.isAlphanum = t.filter Char.isAlphanum := by
  induction t with
  | nil => rfl
  | cons c rest ih =>
      rw [spaced, List.map_cons, ← spaced]
      by_cases divides : (c == '_' || c == '-') = true
      · have outside : c.isAlphanum = false := by
          rcases Bool.or_eq_true_iff.mp divides with underscore | hyphen
          · rw [beq_iff_eq.mp underscore]
            decide
          · rw [beq_iff_eq.mp hyphen]
            decide
        rw [if_pos divides, List.filter_cons_of_neg (by decide),
          List.filter_cons_of_neg (by simp [outside]), ih]
      · rw [if_neg divides, List.filter_cons, ih, ← List.filter_cons]

theorem filter_apart (t : Text) : (apart t).filter Char.isAlphanum = t.filter Char.isAlphanum := by
  fun_induction apart t with
  | case1 => rfl
  | case2 c => rfl
  | case3 c d rest met ih =>
      rw [List.filter_cons, List.filter_cons_of_neg (by decide), ih, ← List.filter_cons]
  | case4 c d rest other ih => rw [List.filter_cons, ih, ← List.filter_cons]

theorem filter_lowered (name : Text) :
    (lowered name).filter (fun c => !(c == ' ')) =
      (name.filter Char.isAlphanum).map Char.toLower := by
  have each : forall c : Char, (!(c.toLower == ' ') && isKept c) = c.isAlphanum := by
    intro c
    by_cases alphanumeric : c.isAlphanum = true
    · have solid : c.toLower ≠ ' ' :=
        ne_of_isSnakeChar (isSnakeChar_toLower alphanumeric) (by decide)
      simp [isKept, alphanumeric, solid]
    · by_cases space : c = ' '
      · rw [space]
        decide
      · simp [isKept, alphanumeric, space]
  rw [lowered, List.filter_map, List.filter_filter]
  simp only [Function.comp_def, each]
  rw [filter_apart, filter_spaced]

theorem filter_snake (name : Text) :
    (snake name).filter (fun c => !(c == '_')) =
      (name.filter Char.isAlphanum).map Char.toLower := by
  have kept : (snakeWords name).flatten.filter (fun c => !(c == '_')) =
      (snakeWords name).flatten := by
    rw [List.filter_eq_self]
    intro c member
    rcases List.mem_flatten.mp member with ⟨word, listed, inside⟩
    have noUnderscore : c ≠ '_' :=
      ne_of_isSnakeChar ((isSnakeWord_of_mem_snakeWords listed).chars c inside) (by decide)
    simp [noUnderscore]
  rw [snake, Text.filter_join (by decide), kept, snakeWords, List.flatten_filter_not_isEmpty,
    Text.splitOn, Text.flatten_splitWhere, ← lowered, filter_lowered]

/-- What becomes of a name is in snake case and stays as it is from then on.  Without its
underscores it is the letters and digits of the name, in lower case and in their order. -/
theorem snake_canonical (name : Text) :
    IsSnake (snake name) ∧ snake (snake name) = snake name ∧
      (snake name).filter (fun c => !(c == '_')) = (name.filter Char.isAlphanum).map Char.toLower :=
  ⟨isSnake_snake name, snake_of_isSnake (isSnake_snake name), filter_snake name⟩

end Name
end SchemaAtlas
