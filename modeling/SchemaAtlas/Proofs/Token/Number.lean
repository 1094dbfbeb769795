import SchemaAtlas.Proofs.Token.Reads

namespace SchemaAtlas
namespace Token

/-!
Numbers without a sign.

A number has digits, perhaps with a point among them or at either end, and perhaps an exponent.  In
front of a break it is one token.
-/

/-- An exponent, or nothing. -/
inductive IsExponent : Text -> Prop
  | none : IsExponent []
  | power {mark : Char} {sign digits : Text} (marks : mark ∈ ['e', 'E'])
      (signed : sign ∈ [[], ['+'], ['-']])
      (nonempty : digits ≠ []) (all : forall c, c ∈ digits -> Text.isDecimalDigit c = true) :
      IsExponent (mark :: (sign ++ digits))

/-- A number without a sign. -/
inductive IsNumber : Text -> Prop
  | whole {digits exponent : Text} (nonempty : digits ≠ [])
      (all : forall c, c ∈ digits -> Text.isDecimalDigit c = true) (scaled : IsExponent exponent) :
      IsNumber (digits ++ exponent)
  | pointed {digits fraction exponent : Text}
      (all : forall c, c ∈ digits -> Text.isDecimalDigit c = true)
      (allBehind : forall c, c ∈ fraction -> Text.isDecimalDigit c = true)
      (some : digits ≠ [] ∨ fraction ≠ []) (scaled : IsExponent exponent) :
      IsNumber (digits ++ '.' :: (fraction ++ exponent))

theorem IsExponent.chars {t : Text} (scaled : IsExponent t) :
    forall c, c ∈ t -> Text.isDecimalDigit c = true ∨ c ∈ ['.', 'e', 'E', '+', '-'] := by
  intro c member
  cases scaled with
  | none => cases member
  | power marks signed _ all =>
      rcases List.mem_cons.mp member with rfl | behind
      · exact Or.inr (List.mem_cons_of_mem '.' (List.mem_append_left ['+', '-'] marks))
      · rcases List.mem_append.mp behind with inSign | inDigits
        · simp only [List.mem_cons, List.not_mem_nil, or_false] at signed
          rcases signed with rfl | rfl | rfl
          · cases inSign
          · exact Or.inr (by simp [List.mem_singleton.mp inSign])
          · exact Or.inr (by simp [List.mem_singleton.mp inSign])
        · exact Or.inl (all c inDigits)

/-- A number is written with digits and a few signs. -/
theorem IsNumber.chars {t : Text} (number : IsNumber t) :
    forall c, c ∈ t -> Text.isDecimalDigit c = true ∨ c ∈ ['.', 'e', 'E', '+', '-'] := by
  intro c member
  cases number with
  | whole _ all scaled =>
      rcases List.mem_append.mp member with inDigits | inExponent
      · exact Or.inl (all c inDigits)
      · exact scaled.chars c inExponent
  | pointed all allBehind _ scaled =>
      rcases List.mem_append.mp member with inDigits | behind
      · exact Or.inl (all c inDigits)
      · rcases List.mem_cons.mp behind with rfl | later
        · exact Or.inr List.mem_cons_self
        · rcases List.mem_append.mp later with inFraction | inExponent
          · exact Or.inl (allBehind c inFraction)
          · exact scaled.chars c inExponent

theorem digitCount_append {digits rest : Text}
    (all : forall c, c ∈ digits -> Text.isDecimalDigit c = true)
    (stops : forall c, rest.head? = some c -> Text.isDecimalDigit c = false) :
    Lexeme.digitCount (digits ++ rest) = digits.length := by
  rw [Lexeme.digitCount, Text.takeWhile_append_of_head all stops]

/-- Neither a digit nor a point follows the digits in front of an exponent and a break. -/
theorem IsExponent.fails {exponent rest : Text} (scaled : IsExponent exponent)
    (broken : Broken rest) (test : Char -> Bool)
    (outside : (['e', 'E'].all fun c => !test c) = true)
    (outsideToo : (breaks.all fun c => !test c) = true) :
    forall c, (exponent ++ rest).head? = some c -> test c = false := by
  cases scaled with
  | none => exact broken.fails test outsideToo
  | power marks _ _ _ =>
      intro c found
      cases found
      simpa using List.all_eq_true.mp outside _ marks

theorem unbarred {rest : Text} (broken : Broken rest) : Lexeme.barred rest = false := by
  cases rest with
  | nil => rfl
  | cons c after => exact broken.fails Lexeme.joinsNumber (by decide) c rfl

theorem exponentParts?_of_broken {rest : Text} (broken : Broken rest) :
    Lexeme.exponentParts? rest = none := by
  cases rest with
  | nil => rfl
  | cons c after =>
      have mark : (c == 'e' || c == 'E') = false :=
        broken.fails (fun d => d == 'e' || d == 'E') (by decide) c rfl
      simp only [Lexeme.exponentParts?, mark, Bool.false_eq_true, if_false]

theorem exponentParts?_power {mark : Char} {sign digits rest : Text} (marks : mark ∈ ['e', 'E'])
    (signed : sign ∈ [[], ['+'], ['-']]) (nonempty : digits ≠ [])
    (all : forall c, c ∈ digits -> Text.isDecimalDigit c = true) (broken : Broken rest) :
    Lexeme.exponentParts? (mark :: (sign ++ digits) ++ rest) =
      some (1 + sign.length, digits.length) := by
  have marked : (mark == 'e' || mark == 'E') = true := by
    simpa using marks
  have count := digitCount_append all (broken.fails Text.isDecimalDigit (by decide))
  simp only [List.cons_append, List.append_assoc, Lexeme.exponentParts?, marked, if_true]
  simp only [List.mem_cons, List.not_mem_nil, or_false] at signed
  rcases signed with rfl | rfl | rfl
  · cases digits with
    | nil => exact absurd rfl nonempty
    | cons d more =>
        have plus : d ≠ '+' := by
          rintro rfl
          exact absurd (all _ List.mem_cons_self) (by decide)
        have minus : d ≠ '-' := by
          rintro rfl
          exact absurd (all _ List.mem_cons_self) (by decide)
        rw [List.cons_append] at count
        simp [plus, minus, count]
  · simp [count, nonempty]
  · simp [count, nonempty]

theorem exponentLength_append {exponent rest : Text} (scaled : IsExponent exponent)
    (broken : Broken rest) : Lexeme.exponentLength (exponent ++ rest) = exponent.length := by
  cases scaled with
  | none => rw [List.nil_append, Lexeme.exponentLength, exponentParts?_of_broken broken]; rfl
  | power marks signed nonempty all =>
      rw [Lexeme.exponentLength, exponentParts?_power marks signed nonempty all broken]
      simp only [List.length_cons, List.length_append]
      omega

theorem wholeNumber?_append (digits : Text) {exponent rest : Text} (scaled : IsExponent exponent)
    (broken : Broken rest) :
    Lexeme.wholeNumber? (digits ++ (exponent ++ rest)) digits.length =
      some (digits.length + exponent.length) := by
  cases scaled with
  | none => simp [Lexeme.wholeNumber?, exponentParts?_of_broken broken, unbarred broken]
  | @power mark sign power marks signed nonempty all =>
      have behind : (mark :: (sign ++ power) ++ rest).drop (1 + sign.length + power.length) =
          rest := by
        apply List.drop_left'
        simp only [List.length_cons, List.length_append]
        omega
      simp only [Lexeme.wholeNumber?,
        List.drop_left, exponentParts?_power marks signed nonempty all broken, behind,
        unbarred broken, Bool.not_false, if_true, List.length_cons, List.length_append,
          Option.some.injEq]
      omega

/-- A number is found as a whole. -/
theorem number?_append {t rest : Text} (number : IsNumber t) (broken : Broken rest) :
    Lexeme.number? (t ++ rest) = some t.length := by
  cases number with
  | @whole digits exponent nonempty all scaled =>
      have count := digitCount_append all
        (scaled.fails broken Text.isDecimalDigit (by decide) (by decide))
      have positive : 0 < digits.length := List.length_pos_iff.mpr nonempty
      have found := wholeNumber?_append digits scaled broken
      have noPoint := scaled.fails broken (· == '.') (by decide) (by decide)
      rw [List.append_assoc, List.length_append]
      simp only [Lexeme.number?, count, List.drop_left]
      cases behind : exponent ++ rest with
      | nil => simp only [behind, positive, if_true] at found ⊢; exact found
      | cons c after =>
          have other : (c == '.') = false := noPoint c (by rw [behind]; rfl)
          simp only [behind, other, Bool.false_and, Bool.false_eq_true, if_false, positive,
            if_true] at found ⊢
          exact found
  | @pointed digits fraction exponent all allBehind some scaled =>
      have count : Lexeme.digitCount (digits ++ '.' :: (fraction ++ (exponent ++ rest))) =
          digits.length :=
        digitCount_append all (Text.fails_at_head '.' _ (by decide))
      have countBehind := digitCount_append allBehind
        (scaled.fails broken Text.isDecimalDigit (by decide) (by decide))
      have filled : (0 < digits.length || 0 < fraction.length) = true := by
        simpa [List.length_pos_iff] using some
      have left : (digits ++ '.' :: (fraction ++ (exponent ++ rest))).drop
          (digits.length + 1 + fraction.length) =
          exponent ++ rest := by
        have moved : digits ++ '.' :: (fraction ++ (exponent ++ rest)) =
            (digits ++ '.' :: fraction) ++ (exponent ++ rest) := by simp
        rw [moved]
        apply List.drop_left'
        simp only [List.length_append, List.length_cons]
        omega
      have text : digits ++ '.' :: (fraction ++ exponent) ++ rest =
          digits ++ '.' :: (fraction ++ (exponent ++ rest)) := by
        simp
      rw [text]
      simp only [Lexeme.number?, count, List.drop_left, countBehind, beq_self_eq_true,
        Bool.true_and, filled, if_true, left, exponentLength_append scaled broken,
          List.length_append, List.length_cons, Option.some.injEq]
      omega

theorem IsNumber.begins {t : Text} (number : IsNumber t) :
    exists c body, t = c :: body ∧ (Text.isDecimalDigit c = true ∨ c = '.') := by
  cases number with
  | @whole digits exponent nonempty all scaled =>
      cases digits with
      | nil => exact absurd rfl nonempty
      | cons c body => exact ⟨c, body ++ exponent, rfl, Or.inl (all c List.mem_cons_self)⟩
  | @pointed digits fraction exponent all _ _ _ =>
      cases digits with
      | nil => exact ⟨'.', fraction ++ exponent, rfl, Or.inr rfl⟩
      | cons c body =>
          exact ⟨c, body ++ '.' :: (fraction ++ exponent), rfl, Or.inl (all c List.mem_cons_self)⟩

theorem lexeme_number {t : Text} (number : IsNumber t) : IsLexeme t (.token .number) := by
  intro rest broken
  rcases number.begins with ⟨c, body, rfl, first⟩
  have found := number?_append number broken
  rw [List.cons_append] at found
  refine ⟨c, body, rfl, ?_⟩
  rcases first with digit | rfl
  · rw [cut_of_not_mem_signs (isBlank_of_isDecimalDigit digit)
      (not_mem_signs digit (by decide)), found]
    rfl
  · have solid : Text.isBlank '.' = false := by decide
    simp [Lexeme.cut, comment?_eq_none, solid, Lexeme.quotedPiece?, found]

theorem isNumber_digits {digits : Text} (nonempty : digits ≠ [])
    (all : forall c, c ∈ digits -> Text.isDecimalDigit c = true) : IsNumber digits := by
  have number := IsNumber.whole nonempty all .none
  rwa [List.append_nil] at number

theorem segment_digits {digits : Text} (nonempty : digits ≠ [])
    (all : forall c, c ∈ digits -> Text.isDecimalDigit c = true) :
    Segment digits [(.number, digits)] :=
  (lexeme_number (isNumber_digits nonempty all)).segment

end Token
end SchemaAtlas
