import SchemaAtlas.Insert.Data
import SchemaAtlas.Proofs.Case
import SchemaAtlas.Proofs.Insert.Cell
import SchemaAtlas.Proofs.Insert.Rows
import SchemaAtlas.Proofs.Insert.Written
import SchemaAtlas.Proofs.Token.Reads

namespace SchemaAtlas

/-!
Cells that cannot be read.

Every text is a cell of some kind, with one exception: a whole number of more than 4300 digits.  So
an insertion is read, or found to be none, unless one of its cells is such a number.
-/

namespace Numeral

/-- A sign that may stand in front of a number. -/
def signs : List Text :=
  [[], ['+'], ['-']]

theorem exists_sign (t : Text) : exists sign, sign ∈ signs ∧ t = sign ++ (readSign t).2 := by
  unfold readSign
  split
  · exact ⟨['-'], by decide, rfl⟩
  · exact ⟨['+'], by decide, rfl⟩
  · exact ⟨[], by decide, rfl⟩

theorem readSign_append {sign digits : Text} (listed : sign ∈ signs)
    (bare : forall c, digits.head? = some c -> c ≠ '-' ∧ c ≠ '+') :
    exists negative, readSign (sign ++ digits) = (negative, digits) := by
  simp only [signs, List.mem_cons, List.not_mem_nil, or_false] at listed
  rcases listed with rfl | rfl | rfl
  · refine ⟨false, ?_⟩
    rw [List.nil_append]
    unfold readSign
    split
    · exact absurd rfl (bare '-' rfl).1
    · exact absurd rfl (bare '+' rfl).2
    · rfl
  · exact ⟨false, rfl⟩
  · exact ⟨true, rfl⟩

theorem readFraction_of_no_point {afterDigits : Bool} {t : Text}
    (none : (readFraction afterDigits t).1 = false) : (readFraction afterDigits t).2.2 = t := by
  unfold readFraction at none ⊢
  split at none
  · rename_i rest
    by_cases counts : (afterDigits || !(rest.takeWhile Text.isDecimalDigit).isEmpty) = true
    · rw [if_pos counts] at none
      cases none
    · rw [if_neg counts]
  · rfl

theorem readExponent_of_none {t : Text} (none : (readExponent t).1 = none) :
    (readExponent t).2 = t := by
  unfold readExponent at none ⊢
  split at none
  · rfl
  · rename_i c rest
    by_cases mark : (c == 'e' || c == 'E') = true
    · simp only [mark, if_true] at none ⊢
      cases digits : (readSign rest).2.takeWhile Text.isDecimalDigit with
      | nil => rfl
      | cons d ds => simp only [digits] at none; cases none
    · rw [if_neg mark]

/-- A numeral without point and exponent is a sign and digits. -/
theorem readSign_of_isWhole {t : Text} {n : Numeral} (read : ofText? t = some n)
    (isWhole : n.isWhole = true) :
    readSign t = (n.negative, n.whole) ∧ forall c, c ∈ n.whole -> Text.isDecimalDigit c = true := by
  have parts := parts_of_ofText? read
  have plain : n.point = false ∧ n.exponent = none := by simpa [Numeral.isWhole] using isWhole
  have noPoint := readFraction_of_no_point (parts.point.trans plain.1)
  have noExponent := readExponent_of_none (congrArg Prod.fst parts.exponent |>.trans plain.2)
  have noRest : (readSign t).2.dropWhile Text.isDecimalDigit = [] :=
    (noExponent.trans noPoint).symm.trans (congrArg Prod.snd parts.exponent)
  have all : forall c, c ∈ (readSign t).2 -> Text.isDecimalDigit c = true :=
    List.dropWhile_eq_nil_iff.mp noRest
  have same : n.whole = (readSign t).2 :=
    parts.whole.symm.trans (List.takeWhile_eq_self_iff.mpr all)
  exact ⟨Prod.ext parts.negative same.symm, fun c member => all c (same ▸ member)⟩

end Numeral

namespace Scalar

/-- A whole number with more digits than can be read. -/
def Overlong (t : Text) : Prop :=
  exists sign digits, sign ∈ Numeral.signs ∧ t = sign ++ digits ∧
    (forall c, c ∈ digits -> Text.isDecimalDigit c = true) ∧ 4300 < digits.length

theorem ofNumeral_eq_error_iff {t : Text} {e : NumeralError} :
    ofNumeral t = .error e ↔ Overlong t := by
  constructor
  · intro failed
    unfold ofNumeral at failed
    cases read : Numeral.ofText? t with
    | none => simp only [read] at failed; cases failed
    | some n =>
        simp only [read] at failed
        by_cases whole : n.isWhole = true
        · rw [if_pos whole, Numeral.toInt?] at failed
          by_cases long : Numeral.digitLimit < n.whole.length
          · rcases Numeral.readSign_of_isWhole read whole with ⟨signed, all⟩
            rcases Numeral.exists_sign t with ⟨sign, listed, split⟩
            rw [signed] at split
            exact ⟨sign, n.whole, listed, split, all, long⟩
          · rw [if_neg long] at failed
            cases failed
        · rw [if_neg whole] at failed
          cases failed
  · rintro ⟨sign, digits, listed, rfl, all, long⟩
    have bare : forall c, digits.head? = some c -> c ≠ '-' ∧ c ≠ '+' := by
      intro c head
      have digit := all c (List.mem_of_head? head)
      constructor <;> rintro rfl <;> exact absurd digit (by decide)
    have nonempty : digits ≠ [] := by
      rintro rfl
      exact absurd long (by decide)
    rcases Numeral.readSign_append listed bare with ⟨negative, signed⟩
    have tooLong : Numeral.digitLimit < digits.length := long
    cases e
    simp only [ofNumeral, Numeral.ofText?_of_readSign signed nonempty all, Numeral.isWhole,
      Numeral.toInt?, if_pos tooLong]
    rfl

theorem Overlong.length {t : Text} (overlong : Overlong t) : 4300 < t.length := by
  rcases overlong with ⟨sign, digits, _, rfl, _, long⟩
  rw [List.length_append]
  omega

theorem isQuote_of_isDecimalDigit {c : Char} (digit : Text.isDecimalDigit c = true) :
    Literal.isQuote c = false := by
  simp only [Literal.isQuote, Bool.or_eq_false_iff, beq_eq_false_iff_ne]
  constructor <;> rintro rfl <;> exact absurd digit (by decide)

theorem Overlong.enclosingQuote? {t : Text} (overlong : Overlong t) :
    Literal.enclosingQuote? t = none := by
  have noQuote : forall c, t.head? = some c -> Literal.isQuote c = false := by
    rcases overlong with ⟨sign, digits, listed, rfl, all, _⟩
    simp only [Numeral.signs, List.mem_cons, List.not_mem_nil, or_false] at listed
    rcases listed with rfl | rfl | rfl
    · exact fun c head => isQuote_of_isDecimalDigit (all c (List.mem_of_head? head))
    · exact Text.fails_at_head '+' _ (by decide)
    · exact Text.fails_at_head '-' _ (by decide)
  unfold Literal.enclosingQuote?
  split
  · rfl
  · rfl
  · rw [noQuote _ rfl]
    rfl

/-- Only a whole number with too many digits cannot be read as a cell. -/
theorem ofText_eq_error_iff {spelled : Text} {e : NumeralError} :
    ofText spelled = .error e ↔ Overlong (Text.trim spelled) := by
  constructor
  · intro failed
    simp only [ofText] at failed
    split at failed
    · cases failed
    · split at failed
      · cases failed
      · split at failed
        · cases failed
        · split at failed
          · cases failed
          · exact ofNumeral_eq_error_iff.mp failed
  · intro overlong
    -- such a number is longer than any of the words for which cells are looked through first
    have noWord : forall word : Text,
        word.length ≤ 4300 -> (Text.upper (Text.trim spelled) == word) = false := by
      intro word short
      apply beq_eq_false_iff_ne.mpr
      intro equal
      have size := Text.length_le_upper (Text.trim spelled)
      have long := overlong.length
      rw [equal] at size
      omega
    simp only [ofText, noWord "NULL".toList (by decide), noWord "TRUE".toList (by decide),
      noWord "FALSE".toList (by decide), Bool.false_eq_true, if_false, overlong.enclosingQuote?]
    exact ofNumeral_eq_error_iff.mpr overlong

end Scalar

namespace Insert

/-- A list cannot be read where one of its items cannot, as long as there is only one reason. -/
theorem mapM_eq_error_iff {α β : Type} {f : α -> Except NumeralError β} {items : List α}
    {e : NumeralError} :
    items.mapM f = .error e ↔ exists item, item ∈ items ∧ f item = .error e := by
  induction items with
  | nil => simp [pure, Except.pure]
  | cons item rest ih =>
      rw [List.mapM_cons]
      cases here : f item with
      | error other =>
          have same : other = e := by cases other; cases e; rfl
          simp [here, same, bind, Except.bind]
      | ok b =>
          cases there : rest.mapM f with
          | error other =>
              rw [there] at ih
              simp [here, ← ih, bind, Except.bind]
          | ok bs =>
              rw [there] at ih
              simp [here, ← ih, bind, Except.bind, pure, Except.pure]

/-- The text has the form of an insertion, and a cell in one of its rows is a whole number with
more digits than can be read. -/
def Overlong (t : Text) : Prop :=
  exists spelled row cell, spelling? t = some spelled ∧
    (QualifiedName.ofText spelled.table).table ≠ [] ∧
    row ∈ rowTexts spelled.values ∧ cell ∈ cellTexts row ∧ Scalar.Overlong (Text.trim cell)

/-- Only an insertion with such a number cannot be read. -/
theorem ofText_eq_error_iff {t : Text} {e : NumeralError} : ofText t = .error e ↔ Overlong t := by
  have cellFails : forall row, cells row = .error e ↔
      exists cell, cell ∈ cellTexts row ∧ Scalar.Overlong (Text.trim cell) := by
    intro row
    simp only [cells, mapM_eq_error_iff, Scalar.ofText_eq_error_iff]
  constructor
  · intro failed
    simp only [ofText] at failed
    cases spelled : spelling? t with
    | none => simp only [spelled] at failed; cases failed
    | some parts =>
        simp only [spelled] at failed
        split at failed
        · cases failed
        · rename_i named
          split at failed
          · rename_i other rowsFail
            cases other
            cases e
            rcases mapM_eq_error_iff.mp rowsFail with ⟨row, inRows, rowFails⟩
            rcases (cellFails row).mp rowFails with ⟨cell, inRow, overlong⟩
            exact ⟨parts, row, cell, spelled, by simpa using named, inRows, inRow, overlong⟩
          · cases failed
  · rintro ⟨parts, row, cell, spelled, named, inRows, inRow, overlong⟩
    have rowFails := (cellFails row).mpr ⟨cell, inRow, overlong⟩
    have rowsFail := mapM_eq_error_iff.mpr ⟨row, inRows, rowFails⟩
    have filled : (QualifiedName.ofText parts.table).table.isEmpty = false :=
      List.isEmpty_eq_false_iff.mpr named
    simp only [ofText, spelled, filled, Bool.false_eq_true, if_false, rowsFail]

/-! An insertion of one number. -/

section

variable {table columns digits : Text}

theorem sealed_of_digits (all : forall c, c ∈ digits -> Text.isDecimalDigit c = true) :
    Sealed isCut digits := by
  apply Sealed.of_forall
  intro c member
  refine ⟨Scalar.isQuote_of_isDecimalDigit (all c member), ?_⟩
  simp only [isCut, isParen, Bool.or_eq_false_iff, beq_eq_false_iff_ne]
  refine ⟨⟨?_, ?_⟩, ?_⟩ <;> rintro rfl <;> exact absurd (all _ member) (by decide)

/-- A number in parentheses is one row of one cell. -/
theorem texts_of_digits (all : forall c, c ∈ digits -> Text.isDecimalDigit c = true)
    (nonempty : digits ≠ []) :
    rowTexts (inParens digits) = [digits] ∧ cellTexts digits = [digits] := by
  have closed := sealed_of_digits all
  constructor
  · exact rowTexts_inParens (closed.mono fun _ => isParen_of_isCut)
  · have filled : digits.isEmpty = false := List.isEmpty_eq_false_iff.mpr nonempty
    have pieces : cellPieces .plain 0 (Text.join [','] [digits]) = [digits] := by
      apply cellPieces_join (Sealed.nil _)
      intro part listed
      rw [List.mem_singleton.mp listed]
      exact closed
    rw [Text.join_singleton] at pieces
    rw [cellTexts, filled]
    exact pieces

/-- A statement whose only cell is a number with too many digits. -/
theorem overlong_statementText (identifier : Name.IsIdentifier table) (closed : ')' ∉ columns)
    (all : forall c, c ∈ digits -> Text.isDecimalDigit c = true) (long : 4300 < digits.length) :
    Overlong (statementText table columns (inParens digits)) := by
  have nonempty : digits ≠ [] := by
    rintro rfl
    exact absurd long (by decide)
  have solid : Text.Unpadded digits :=
    Text.unpadded_of_forall fun c member => Token.isBlank_of_isDecimalDigit (all c member)
  have named : (QualifiedName.ofText table).table ≠ [] := by
    rw [identifier.qualifiedName_eq]
    exact identifier.ne_nil
  have spelled : spelling? (statementText table columns (inParens digits)) =
      some ⟨table, some columns, inParens digits⟩ :=
    spelling?_statementText identifier closed (Text.fails_at_head '(' _ (by decide))
  rcases texts_of_digits all nonempty with ⟨row, cell⟩
  refine ⟨_, digits, digits, spelled, named, ?_, ?_, ?_⟩
  · rw [row]
    exact List.mem_singleton_self _
  · rw [cell]
    exact List.mem_singleton_self _
  · rw [Text.trim_of_unpadded solid]
    exact ⟨[], digits, by decide, rfl, all, long⟩

end

end Insert
end SchemaAtlas
