import SchemaAtlas.Insert.Cell
import SchemaAtlas.Proofs.Literal

namespace SchemaAtlas

/-!
Cells that are written and read again.

A cell that an insertion can spell is nothing, a truth value, a whole number of at most 4300 digits,
or a text on one line.  Its spelling is read back as the cell itself, whatever white space stands in
front of it.  Texts are written in single quotes, where every backslash and every single quote is
doubled; the two passes of the reader resolve the quotes first and the backslashes last.
-/

namespace Numeral

theorem isDecimalDigit_of_isDigit {c : Char} (digit : c.isDigit = true) :
    Text.isDecimalDigit c = true := by
  have bounds := Char.isDigit_iff_toNat.mp digit
  have small : c.toNat < 0x80 := by
    have top : '9'.toNat = 57 := rfl
    omega
  simp only [Text.isDecimalDigit, if_pos small, digit]

theorem digitValue?_of_isDigit {c : Char} (digit : c.isDigit = true) :
    Text.digitValue? c = some (c.toNat - '0'.toNat) := by
  have bounds := Char.isDigit_iff_toNat.mp digit
  have top : '9'.toNat = 57 := rfl
  have bottom : '0'.toNat = 48 := rfl
  have first : (decide (0x30 ≤ c.toNat) && decide (c.toNat < 0x30 + 10)) = true := by
    simp only [Bool.and_eq_true, decide_eq_true_eq]
    omega
  simp only [Text.digitValue?, Text.digitZeros, List.find?_cons, first, Option.map_some, bottom]

/-- The digits of a number denote that number. -/
theorem digitsToNat_ofNat (n : Nat) : Text.digitsToNat (Text.ofNat n) = n := by
  have agree : forall (digits : Text) (init : Nat), (forall c, c ∈ digits -> c.isDigit = true) ->
      digits.foldl (fun n c => 10 * n + (Text.digitValue? c).getD 0) init =
        Nat.ofDigitChars 10 digits init := by
    intro digits
    induction digits with
    | nil => intro init _; rfl
    | cons c rest ih =>
        intro init digit
        rw [List.foldl_cons, Nat.ofDigitChars_cons, digitValue?_of_isDigit (digit c (by simp))]
        exact ih _ fun d member => digit d (List.mem_cons_of_mem _ member)
  unfold Text.digitsToNat Text.ofNat
  rw [agree _ 0 fun c member => Nat.isDigit_of_mem_toDigits (by decide) (by decide) member]
  exact Nat.ofDigitChars_ten_toDigits

theorem isDigit_of_mem_ofNat {n : Nat} {c : Char} (member : c ∈ Text.ofNat n) : c.isDigit = true :=
  Nat.isDigit_of_mem_toDigits (by decide) (by decide) member

theorem ofNat_ne_nil (n : Nat) : Text.ofNat n ≠ [] :=
  Nat.toDigits_ne_nil

theorem readSign_ofNat (n : Nat) : readSign (Text.ofNat n) = (false, Text.ofNat n) := by
  cases digits : Text.ofNat n with
  | nil => rfl
  | cons c rest =>
      have digit : c.isDigit = true := isDigit_of_mem_ofNat (n := n) (by simp [digits])
      have noMinus : c ≠ '-' := by rintro rfl; exact absurd digit (by decide)
      have noPlus : c ≠ '+' := by rintro rfl; exact absurd digit (by decide)
      unfold readSign
      split
      · rename_i equal; exact absurd (List.cons.inj equal).1 noMinus
      · rename_i equal; exact absurd (List.cons.inj equal).1 noPlus
      · rfl

/-- Digits alone, behind a sign that is already read, are a whole numeral. -/
theorem ofText?_of_readSign {t digits : Text} {negative : Bool}
    (signed : readSign t = (negative, digits)) (nonempty : digits ≠ [])
    (all : forall c, c ∈ digits -> Text.isDecimalDigit c = true) :
    ofText? t = some ⟨negative, digits, false, [], none⟩ := by
  have whole : digits.takeWhile Text.isDecimalDigit = digits := List.takeWhile_eq_self_iff.mpr all
  have nothing : digits.dropWhile Text.isDecimalDigit = [] := List.dropWhile_eq_nil_iff.mpr all
  have filled : digits.isEmpty = false := List.isEmpty_eq_false_iff.mpr nonempty
  simp only [ofText?, read?, signed, whole, nothing, filled, readFraction, readExponent,
    Bool.false_and, Bool.false_eq_true, if_false]

theorem readSign_ofInt (n : Int) :
    readSign (Text.ofInt n) = (decide (n < 0), Text.ofNat n.natAbs) := by
  cases n with
  | ofNat n =>
      have sign : decide (Int.ofNat n < 0) = false :=
        decide_eq_false (Int.not_lt.mpr (Int.natCast_nonneg n))
      rw [sign]
      exact readSign_ofNat n
  | negSucc n =>
      have sign : decide (Int.negSucc n < 0) = true := decide_eq_true (Int.negSucc_lt_zero n)
      rw [sign]
      rfl

/-- What the parts of a text are where the text is a numeral: a sign, digits, a fraction and an
exponent, and nothing behind them. -/
structure Parts (t : Text) (n : Numeral) : Prop where
  nonempty : t ≠ []
  negative : (readSign t).1 = n.negative
  whole : (readSign t).2.takeWhile Text.isDecimalDigit = n.whole
  point : (readFraction (!n.whole.isEmpty) ((readSign t).2.dropWhile Text.isDecimalDigit)).1 =
    n.point
  exponent : readExponent
    (readFraction (!n.whole.isEmpty) ((readSign t).2.dropWhile Text.isDecimalDigit)).2.2 =
      (n.exponent, [])

theorem parts_of_ofText? {t : Text} {n : Numeral} (read : ofText? t = some n) : Parts t n := by
  let unsigned := (readSign t).2
  let whole := unsigned.takeWhile Text.isDecimalDigit
  let fraction := readFraction (!whole.isEmpty) (unsigned.dropWhile Text.isDecimalDigit)
  let exponent := readExponent fraction.2.2
  have parts : read? t = if whole.isEmpty && fraction.2.1.isEmpty then none
      else some (⟨(readSign t).1, whole, fraction.1, fraction.2.1, exponent.1⟩, exponent.2) := rfl
  unfold ofText? at read
  rw [parts] at read
  by_cases empty : (whole.isEmpty && fraction.2.1.isEmpty) = true
  · rw [if_pos empty] at read
    cases read
  · rw [if_neg empty] at read
    cases rest : exponent.2 with
    | cons c more => simp only [rest] at read; cases read
    | nil =>
        simp only [rest, Option.some.injEq] at read
        subst read
        refine ⟨?_, rfl, rfl, rfl, Prod.ext rfl rest⟩
        rintro rfl
        exact empty rfl

end Numeral

namespace Insert

/-- A cell that an insertion can spell on one line. -/
inductive Cell where
  | null
  | truth (b : Bool)
  | whole (n : Int) (short : (Text.ofNat n.natAbs).length ≤ 4300)
  | line (t : Text) (unbroken : t.Unbroken)

namespace Cell

def value : Cell -> Scalar
  | .null => .null
  | .truth b => .bool b
  | .whole n _ => .int n
  | .line t _ => .text t

def written : Cell -> Text
  | .null => "NULL".toList
  | .truth true => "TRUE".toList
  | .truth false => "FALSE".toList
  | .whole n _ => Text.ofInt n
  | .line t _ => Literal.single (Text.double '\\' t)

def isNumberChar (c : Char) : Bool :=
  c.isDigit || c == '-'

theorem isNumberChar_of_mem_ofInt {n : Int} {c : Char} (member : c ∈ Text.ofInt n) :
    isNumberChar c = true := by
  cases n with
  | ofNat n => simp [isNumberChar, Numeral.isDigit_of_mem_ofNat member]
  | negSucc n =>
      rcases List.mem_cons.mp member with sign | digit
      · simp [isNumberChar, sign]
      · simp [isNumberChar, Numeral.isDigit_of_mem_ofNat digit]

theorem ofInt_ne_nil (n : Int) : Text.ofInt n ≠ [] := by
  cases n with
  | ofNat n => exact Numeral.ofNat_ne_nil n
  | negSucc n => simp [Text.ofInt]

end Cell
end Insert

namespace Scalar

/-- The character begins none of the words `NULL`, `TRUE` and `FALSE`. -/
def BeginsNoWord (c : Char) : Prop :=
  c.toNat < 0x80 ∧ c.toUpper ≠ 'N' ∧ c.toUpper ≠ 'T' ∧ c.toUpper ≠ 'F'

theorem upper_ne_words {c : Char} (rest : Text) (other : BeginsNoWord c) :
    (Text.upper (c :: rest) == "NULL".toList) = false ∧
      (Text.upper (c :: rest) == "TRUE".toList) = false ∧
      (Text.upper (c :: rest) == "FALSE".toList) = false := by
  have upper : Text.upper (c :: rest) = c.toUpper :: Text.upper rest := by
    simp [Text.upper, Text.upperChar, if_pos other.1]
  have differs : forall (d : Char) (word : Text), c.toUpper ≠ d ->
      (Text.upper (c :: rest) == d :: word) = false := by
    intro d word apart
    rw [upper]
    exact beq_eq_false_iff_ne.mpr fun equal => apart (List.cons.inj equal).1
  exact ⟨differs 'N' _ other.2.1, differs 'T' _ other.2.2.1, differs 'F' _ other.2.2.2⟩

theorem ofText_of_literal {spelled rest : Text} {c quote : Char}
    (trimmed : Text.trim spelled = c :: rest) (other : BeginsNoWord c)
    (enclosed : Literal.enclosingQuote? (c :: rest) = some quote) :
    ofText spelled = .ok (.text (Literal.decode (Name.withoutEnds (c :: rest)) quote)) := by
  rcases upper_ne_words rest other with ⟨notNull, notTrue, notFalse⟩
  simp only [ofText, trimmed, notNull, notTrue, notFalse, enclosed, Bool.false_eq_true, if_false]

/-- Between two quotes of one kind stands the body of a literal, whatever it is. -/
theorem ofText_enclosed (quote : Char) (quotes : Literal.isQuote quote = true) {space : Text}
    (blank : forall c, c ∈ space -> Text.isBlank c = true) (body : Text) :
    ofText (space ++ (quote :: body ++ [quote])) = .ok (.text (Literal.decode body quote)) := by
  have mark : Text.isBlank quote = false ∧ BeginsNoWord quote := by
    rcases Bool.or_eq_true_iff.mp quotes with single | double
    · rw [beq_iff_eq.mp single]
      exact ⟨by decide, by decide, by decide, by decide, by decide⟩
    · rw [beq_iff_eq.mp double]
      exact ⟨by decide, by decide, by decide, by decide, by decide⟩
  have trimmed := Text.trim_blank_append blank (Text.unpadded_enclosed mark.1 mark.1 body)
  have literal := ofText_of_literal trimmed mark.2 (Literal.enclosingQuote?_enclosed quotes body)
  exact literal.trans (congrArg (fun inner => Except.ok (text (Literal.decode inner quote)))
    (Literal.withoutEnds_enclosed quote quote body))

theorem ofText_of_number {spelled rest : Text} {c : Char}
    (trimmed : Text.trim spelled = c :: rest) (other : BeginsNoWord c)
    (bare : Literal.enclosingQuote? (c :: rest) = none) :
    ofText spelled = ofNumeral (c :: rest) := by
  rcases upper_ne_words rest other with ⟨notNull, notTrue, notFalse⟩
  simp only [ofText, trimmed, notNull, notTrue, notFalse, bare, Bool.false_eq_true, if_false]

/-- A written number of few enough digits is read as that number. -/
theorem ofNumeral_ofInt {n : Int} (short : (Text.ofNat n.natAbs).length ≤ 4300) :
    ofNumeral (Text.ofInt n) = .ok (.int n) := by
  have few : ¬ Numeral.digitLimit < (Text.ofNat n.natAbs).length := Nat.not_lt.mpr short
  have numeral := Numeral.ofText?_of_readSign (Numeral.readSign_ofInt n) (Numeral.ofNat_ne_nil _)
    fun c member => Numeral.isDecimalDigit_of_isDigit (Numeral.isDigit_of_mem_ofNat member)
  have signed : (if decide (n < 0) = true then -(n.natAbs : Int) else (n.natAbs : Int)) = n := by
    by_cases negative : n < 0
    · simp only [negative, decide_true, if_true]
      omega
    · simp only [negative, decide_false, Bool.false_eq_true, if_false]
      omega
  simp only [ofNumeral, numeral, Numeral.isWhole, Option.isNone_none, Bool.not_false, Bool.and_self,
    if_true, Numeral.toInt?, if_neg few, Numeral.digitsToNat_ofNat, signed]

end Scalar

namespace Insert
namespace Cell

theorem isBlank_of_isNumberChar {c : Char} (number : isNumberChar c = true) :
    Text.isBlank c = false := by
  simp only [isNumberChar, Bool.or_eq_true, beq_iff_eq] at number
  rcases number with digit | rfl
  · have bounds := Char.isDigit_iff_toNat.mp digit
    have top : '9'.toNat = 57 := rfl
    have bottom : '0'.toNat = 48 := rfl
    simp only [Text.isBlank, Text.inIntervals, Text.blankIntervals, List.any_cons, List.any_nil,
      Bool.or_false, Bool.or_eq_false_iff, Bool.and_eq_false_iff, decide_eq_false_iff_not]
    omega
  · decide

theorem beginsNoWord_of_isNumberChar {c : Char} (number : isNumberChar c = true) :
    Scalar.BeginsNoWord c := by
  simp only [isNumberChar, Bool.or_eq_true, beq_iff_eq] at number
  rcases number with digit | rfl
  · have bounds := Char.isDigit_iff_toNat.mp digit
    have top : '9'.toNat = 57 := rfl
    have noLower : c.toUpper = c := by
      unfold Char.toUpper
      rw [dif_neg]
      intro lower
      have low : 97 ≤ c.toNat := UInt32.le_iff_toNat_le.mp lower.1
      omega
    refine ⟨by omega, ?_, ?_, ?_⟩ <;> rw [noLower] <;> rintro rfl <;> exact absurd digit (by decide)
  · exact ⟨by decide, by decide, by decide, by decide⟩

theorem enclosingQuote?_of_isNumberChar {c : Char} (rest : Text) (number : isNumberChar c = true) :
    Literal.enclosingQuote? (c :: rest) = none := by
  have noQuote : Literal.isQuote c = false := by
    simp only [Literal.isQuote, Bool.or_eq_false_iff, beq_eq_false_iff_ne]
    constructor <;> rintro rfl <;> exact absurd number (by decide)
  cases rest with
  | nil => rfl
  | cons d more =>
      simp only [Literal.enclosingQuote?, noQuote, Bool.false_and, Bool.false_eq_true, if_false]

theorem written_ne_nil (cell : Cell) : cell.written ≠ [] := by
  cases cell with
  | null => decide
  | truth b => cases b <;> decide
  | whole n short => exact ofInt_ne_nil n
  | line t unbroken => exact List.cons_ne_nil _ _

theorem written_unpadded (cell : Cell) : Text.Unpadded cell.written := by
  cases cell with
  | null => exact Text.unpadded_of_forall (List.all_iff_forall_prop.mp (by decide))
  | truth b =>
      cases b <;> exact Text.unpadded_of_forall (List.all_iff_forall_prop.mp (by decide))
  | whole n short =>
      exact Text.unpadded_of_forall fun c member =>
        isBlank_of_isNumberChar (isNumberChar_of_mem_ofInt member)
  | line t unbroken =>
      exact Text.unpadded_enclosed (by decide) (by decide) (Text.double '\'' (Text.double '\\' t))

/-- No line ends inside a written cell. -/
theorem written_unbroken (cell : Cell) : Text.Unbroken cell.written := by
  cases cell with
  | null => exact ⟨by decide, by decide⟩
  | truth b => cases b <;> exact ⟨by decide, by decide⟩
  | whole n short =>
      exact Text.unbroken_of_forall (fun c member => isNumberChar_of_mem_ofInt member) (by decide)
        (by decide)
  | line t unbroken =>
      change Text.Unbroken (Literal.single (Text.double '\\' t))
      simpa [Literal.single, Text.Unbroken, Text.mem_double] using unbroken

/-- Reading gives back the cell that was written, whatever white space stands in front of it. -/
theorem ofText_written (cell : Cell) (space : Text)
    (blank : forall c, c ∈ space -> Text.isBlank c = true) :
    Scalar.ofText (space ++ cell.written) = .ok cell.value := by
  have trimmed := Text.trim_blank_append blank cell.written_unpadded
  cases cell with
  | null =>
      simp only [Scalar.ofText, trimmed]
      rfl
  | truth b =>
      cases b <;> simp only [Scalar.ofText, trimmed] <;> rfl
  | whole n short =>
      have number := Scalar.ofNumeral_ofInt short
      change Text.trim (space ++ Text.ofInt n) = Text.ofInt n at trimmed
      change Scalar.ofText (space ++ Text.ofInt n) = _
      cases spelled : Text.ofInt n with
      | nil => exact absurd spelled (ofInt_ne_nil n)
      | cons c rest =>
          rw [spelled] at trimmed number
          have numeric : isNumberChar c = true :=
            isNumberChar_of_mem_ofInt (n := n) (by simp [spelled])
          rw [Scalar.ofText_of_number trimmed (beginsNoWord_of_isNumberChar numeric)
            (enclosingQuote?_of_isNumberChar rest numeric)]
          exact number
  | line t unbroken =>
      have literal := Scalar.ofText_enclosed '\'' (by decide) blank
        (Text.double '\'' (Text.double '\\' t))
      rw [Literal.decode_double_double] at literal
      exact literal

end Cell
end Insert

namespace Scalar

/-- A text in double quotes, where all that has a meaning there is written twice, is read as the
text with its pairs of single quotes made single.  So it is read as it was written just if it has
no such pair. -/
theorem doubleQuoted_kept_iff (t : Text) :
    Literal.unquote (Literal.doubleQuoted t) = Text.collapse '\'' t ∧
      ofText (Literal.doubleQuoted t) = .ok (.text (Text.collapse '\'' t)) ∧
      (Literal.unquote (Literal.doubleQuoted t) = t ↔ ¬ ['\'', '\''] <:+: t) ∧
      (ofText (Literal.doubleQuoted t) = .ok (.text t) ↔ ¬ ['\'', '\''] <:+: t) := by
  have unquoted : Literal.unquote (Literal.doubleQuoted t) = Text.collapse '\'' t :=
    (Literal.unquote_enclosed (by decide) _).trans (Literal.decode_doubleQuoted t)
  have cell : ofText (Literal.doubleQuoted t) = .ok (.text (Text.collapse '\'' t)) := by
    have noSpace : forall c, c ∈ ([] : Text) -> Text.isBlank c = true :=
      fun c member => nomatch member
    have literal := ofText_enclosed '"' (by decide) noSpace (Text.double '"' (Text.double '\\' t))
    rw [Literal.decode_doubleQuoted] at literal
    exact literal
  refine ⟨unquoted, cell, ?_, ?_⟩
  · rw [unquoted, Text.collapse_eq_self_iff]
  · rw [cell, Except.ok.injEq, text.injEq, Text.collapse_eq_self_iff]

example : Literal.unquote "\"''\"".toList = ['\''] := by decide

end Scalar
end SchemaAtlas
