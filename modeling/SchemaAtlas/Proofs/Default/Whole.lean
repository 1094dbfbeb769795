import Mathlib.Algebra.Order.Field.Rat
import Mathlib.Algebra.Order.Ring.Abs
import Mathlib.Tactic.Linarith
import Mathlib.Tactic.FieldSimp
import Mathlib.Tactic.NormNum
import Mathlib.Tactic.Ring
import SchemaAtlas.Proofs.Case
import SchemaAtlas.Proofs.Default.Quoted

namespace SchemaAtlas

/-!
Numbers as default values of columns of whole numbers.

A number is put in quotes when it is read.  When it is written, the digits in front of the point are
taken out of the quotes again and everything behind them is dropped, the exponent included.  So a
whole number stays what it is just if there are such digits and the exponent changes nothing;
without such digits the quotes themselves are written.
-/

namespace Text

theorem digitsToNat_append (s t : Text) :
    digitsToNat (s ++ t) = digitsToNat s * 10 ^ t.length + digitsToNat t := by
  have shift : forall (t : Text) (n : Nat), t.foldl (fun n c => 10 * n + (digitValue? c).getD 0) n =
      n * 10 ^ t.length + digitsToNat t := by
    intro t
    induction t with
    | nil => intro n; simp [digitsToNat]
    | cons c rest ih =>
        intro n
        rw [digitsToNat, List.foldl_cons, List.foldl_cons, ih, ih (10 * 0 + _), List.length_cons,
          pow_succ]
        ring
  rw [digitsToNat, List.foldl_append, shift]
  rfl

theorem digitValue?_lt {c : Char} {n : Nat} (found : digitValue? c = some n) : n < 10 := by
  rcases Option.map_eq_some_iff.mp found with ⟨start, row, rfl⟩
  have inside := List.find?_some row
  simp only [Bool.and_eq_true, decide_eq_true_eq] at inside
  omega

theorem digitsToNat_lt (t : Text) : digitsToNat t < 10 ^ t.length := by
  induction t with
  | nil => simp [digitsToNat]
  | cons c rest ih =>
      have digit : (digitValue? c).getD 0 < 10 := by
        cases found : digitValue? c with
        | none => simp
        | some n => simpa using digitValue?_lt found
      have split := digitsToNat_append [c] rest
      have first : digitsToNat [c] = (digitValue? c).getD 0 := by simp [digitsToNat]
      rw [List.singleton_append, first] at split
      rw [split, List.length_cons, pow_succ]
      have bound := Nat.mul_le_mul_right (10 ^ rest.length) (Nat.le_of_lt_succ digit)
      omega

def digitIntervals : List (Nat × Nat) :=
  digitZeros.map fun start => (start, start + 9)

theorem inIntervals_of_isDecimalDigit {c : Char} (digit : isDecimalDigit c = true) :
    inIntervals digitIntervals c = true := by
  have valued : (digitValue? c).isSome = true := by
    unfold isDecimalDigit at digit
    split at digit
    · rw [Numeral.digitValue?_of_isDigit digit]
      rfl
    · exact digit
  rcases Option.isSome_iff_exists.mp valued with ⟨n, found⟩
  rcases Option.map_eq_some_iff.mp found with ⟨start, row, _⟩
  have inside := List.find?_some row
  simp only [Bool.and_eq_true, decide_eq_true_eq] at inside
  refine List.any_eq_true.mpr ⟨_, List.mem_map_of_mem (List.mem_of_find?_eq_some row), ?_⟩
  simp only [Bool.and_eq_true, decide_eq_true_eq]
  omega

/-! What is found in a text. -/

theorem mem_of_has {needle t : Text} (found : has needle t = true) {c : Char}
    (member : c ∈ needle) : c ∈ t := by
  induction t with
  | nil =>
      rw [List.isEmpty_iff.mp found] at member
      cases member
  | cons d rest ih =>
      rw [has, Bool.or_eq_true] at found
      rcases found with here | later
      · exact (List.isPrefixOf_iff_prefix.mp here).subset member
      · exact List.mem_cons_of_mem d (ih later)

end Text

namespace Phrase

/-- A phrase that begins at no character of a text, and not at its end, stands nowhere in it. -/
theorem occursAfter_eq_false {α : Type} {p : Option Char -> Phrase α} {t : Text}
    (nowhere : forall before c rest, c ∈ t -> p before (c :: rest) = [])
    (atEnd : forall before, p before [] = []) (before : Option Char) :
    occursAfter p before t = false := by
  induction t generalizing before with
  | nil => simp [occursAfter, holds, atEnd]
  | cons c rest ih =>
      have here := nowhere before c rest List.mem_cons_self
      have later :=
        ih (fun before d more member => nowhere before d more (List.mem_cons_of_mem c member))
          (some c)
      simp [occursAfter, holds, here, later]

end Phrase

namespace Numeral

/-! The characters of a numeral. -/

/-- The characters of a numeral that are no digits. -/
def marks : List Char :=
  ['+', '-', '.', 'e', 'E']

theorem mem_readSign {t : Text} {c : Char} (member : c ∈ t) : c ∈ marks ∨ c ∈ (readSign t).2 := by
  unfold readSign
  split
  · rcases List.mem_cons.mp member with rfl | later
    · exact Or.inl (by decide)
    · exact Or.inr later
  · rcases List.mem_cons.mp member with rfl | later
    · exact Or.inl (by decide)
    · exact Or.inr later
  · exact Or.inr member

theorem mem_run {t : Text} {c : Char} (member : c ∈ t) :
    Text.isDecimalDigit c = true ∨ c ∈ t.dropWhile Text.isDecimalDigit := by
  rw [← List.takeWhile_append_dropWhile (p := Text.isDecimalDigit) (l := t)] at member
  exact (List.mem_append.mp member).imp_left fun inRun => List.mem_takeWhile_imp inRun

theorem mem_readFraction {afterDigits : Bool} {t : Text} {c : Char} (member : c ∈ t) :
    c ∈ marks ∨ Text.isDecimalDigit c = true ∨ c ∈ (readFraction afterDigits t).2.2 := by
  unfold readFraction
  split
  · dsimp only
    split
    · rcases List.mem_cons.mp member with rfl | later
      · exact Or.inl (by decide)
      · exact Or.inr (mem_run later)
    · exact Or.inr (Or.inr member)
  · exact Or.inr (Or.inr member)

theorem mem_readExponent {t : Text} {c : Char} (member : c ∈ t) :
    c ∈ marks ∨ Text.isDecimalDigit c = true ∨ c ∈ (readExponent t).2 := by
  cases t with
  | nil => cases member
  | cons d rest =>
      by_cases isMark : (d == 'e' || d == 'E') = true
      · cases digits : (readSign rest).2.takeWhile Text.isDecimalDigit with
        | nil =>
            simp only [readExponent, isMark, if_true, digits]
            exact Or.inr (Or.inr member)
        | cons first others =>
            simp only [readExponent, isMark, if_true, digits]
            rcases List.mem_cons.mp member with rfl | later
            · simp only [Bool.or_eq_true, beq_iff_eq] at isMark
              rcases isMark with rfl | rfl
              · exact Or.inl (by decide)
              · exact Or.inl (by decide)
            · exact (mem_readSign later).imp_right mem_run
      · simp only [readExponent, if_neg isMark]
        exact Or.inr (Or.inr member)

/-- A numeral is made of decimal digits and a few marks. -/
theorem isDigit_or_mem_marks {t : Text} {n : Numeral} (read : ofText? t = some n) {c : Char}
    (member : c ∈ t) : Text.isDecimalDigit c = true ∨ c ∈ marks := by
  have ended := congrArg Prod.snd (parts_of_ofText? read).exponent
  rcases mem_readSign member with mark | unsigned
  · exact Or.inr mark
  · rcases mem_run unsigned with digit | behind
    · exact Or.inl digit
    · rcases mem_readFraction behind with mark | digit | behind
      · exact Or.inr mark
      · exact Or.inl digit
      · rcases mem_readExponent behind with mark | digit | behind
        · exact Or.inr mark
        · exact Or.inl digit
        · rw [ended] at behind
          cases behind

/-! The value of a numeral. -/

def sign (n : Numeral) : ℚ :=
  if n.negative then -1 else 1

/-- The number that a numeral denotes, exactly. -/
def value (n : Numeral) : ℚ :=
  n.sign * (n.coefficient * (10 : ℚ) ^ (n.power - n.fraction.length))

/-- The integer in front of the point. -/
def wholePart (n : Numeral) : Int :=
  if n.negative then -(Text.digitsToNat n.whole : Int) else Text.digitsToNat n.whole

/-- A written integer is a numeral of its value. -/
theorem exists_value_ofInt (k : Int) : exists m, ofText? (Text.ofInt k) = some m ∧ m.value = k := by
  refine ⟨_, ofText?_of_readSign (readSign_ofInt k) (ofNat_ne_nil _)
    (fun c member => isDecimalDigit_of_isDigit (isDigit_of_mem_ofNat member)), ?_⟩
  have sign : ((if decide (k < 0) = true then -1 else 1 : ℚ)) * (k.natAbs : ℚ) = k := by
    by_cases negative : k < 0
    · have magnitude : ((k.natAbs : Int) : ℚ) = ((-k : Int) : ℚ) := by
        exact_mod_cast (by omega : (k.natAbs : Int) = -k)
      simp only [negative, decide_true, if_true]
      rw [← Int.cast_natCast, magnitude]
      push_cast
      ring
    · have magnitude : ((k.natAbs : Int) : ℚ) = (k : ℚ) := by
        exact_mod_cast (by omega : (k.natAbs : Int) = k)
      simp only [negative, decide_false, Bool.false_eq_true, if_false, one_mul]
      rw [← Int.cast_natCast, magnitude]
  simpa [value, Numeral.sign, coefficient, power, digitsToNat_ofNat] using sign

/-- The quotient of a number in front of its point, told from the number itself. -/
theorem eq_of_mul_add_eq {whole fraction k unit : Nat} (small : fraction < unit)
    (same : whole * unit + fraction = k * unit) : k = whole := by
  have positive : 0 < unit := Nat.zero_lt_of_lt small
  have quotient : (unit * whole + fraction) / unit = whole := by
    rw [Nat.mul_add_div positive, Nat.div_eq_of_lt small, Nat.add_zero]
  rw [Nat.mul_comm unit whole, same, Nat.mul_div_cancel k positive] at quotient
  exact quotient

/-- A decimal number, cut behind its point, keeps its value just if nothing is scaled: the power
of ten is zero, or all digits are.  It is whole itself, so the digits behind the point are zeros
or are moved in front of it. -/
theorem scaled_eq_iff {whole fraction places m : Nat} {power : Int} (small : fraction < 10 ^ places)
    (isWhole : ((whole * 10 ^ places + fraction : Nat) : ℚ) * (10 : ℚ) ^ (power - places) = m) :
    m = whole ↔ power = 0 ∨ whole * 10 ^ places + fraction = 0 := by
  have ten : (10 : ℚ) ≠ 0 := by norm_num
  have powers : forall n : Nat, n ≠ 0 -> 1 < 10 ^ n :=
    fun n positive => Nat.one_lt_pow positive (by decide)
  have unit : 10 ^ places ≠ 0 := pow_ne_zero _ (by decide)
  rw [zpow_sub₀ ten, zpow_natCast, ← mul_div_assoc, div_eq_iff (pow_ne_zero _ ten)] at isWhole
  rcases Int.eq_nat_or_neg power with ⟨q, rfl | rfl⟩
  · -- the digits are moved to the left
    rw [zpow_natCast] at isWhole
    have scaled : (whole * 10 ^ places + fraction) * 10 ^ q = m * 10 ^ places := by
      exact_mod_cast isWhole
    rw [Int.natCast_eq_zero]
    constructor
    · rintro rfl
      by_contra neither
      rw [not_or] at neither
      have grown : (m * 10 ^ places + fraction) * 1 < (m * 10 ^ places + fraction) * 10 ^ q :=
        Nat.mul_lt_mul_of_pos_left (powers q neither.1) (Nat.pos_of_ne_zero neither.2)
      omega
    · rintro (rfl | nothing)
      · rw [pow_zero, Nat.mul_one] at scaled
        exact eq_of_mul_add_eq small scaled
      · rw [nothing, Nat.zero_mul] at scaled
        have noPart : whole * 10 ^ places = 0 := by omega
        rw [(Nat.mul_eq_zero.mp scaled.symm).resolve_right unit,
          (Nat.mul_eq_zero.mp noPart).resolve_right unit]
  · -- the digits are moved to the right
    rw [zpow_neg, zpow_natCast, ← div_eq_mul_inv, div_eq_iff (pow_ne_zero _ ten)] at isWhole
    have scaled : whole * 10 ^ places + fraction = m * 10 ^ q * 10 ^ places := by
      rw [Nat.mul_right_comm]
      exact_mod_cast isWhole
    have part : m * 10 ^ q = whole := eq_of_mul_add_eq small scaled
    rw [neg_eq_zero, Int.natCast_eq_zero, scaled, ← part]
    constructor
    · intro same
      by_contra neither
      rw [not_or] at neither
      have filled : m ≠ 0 := by
        rintro rfl
        exact neither.2 (by simp)
      have grown : m * 1 < m * 10 ^ q :=
        Nat.mul_lt_mul_of_pos_left (powers q neither.1) (Nat.pos_of_ne_zero filled)
      omega
    · rintro (rfl | nothing)
      · rw [pow_zero, Nat.mul_one]
      · have noDigits : m * 10 ^ q = 0 := (Nat.mul_eq_zero.mp nothing).resolve_right unit
        rw [(Nat.mul_eq_zero.mp noDigits).resolve_right (pow_ne_zero _ (by decide)), Nat.zero_mul]

theorem abs_sign (n : Numeral) : |n.sign| = 1 := by
  rw [sign]
  split
  · exact (abs_neg 1).trans abs_one
  · exact abs_one

theorem wholePart_eq (n : Numeral) :
    (n.wholePart : ℚ) = n.sign * (Text.digitsToNat n.whole : ℚ) := by
  rw [wholePart, sign]
  split
  · push_cast
    ring
  · push_cast
    ring

/-- A whole number keeps its value in front of the point just if its exponent changes nothing. -/
theorem wholePart_eq_value_iff {n : Numeral} (isWhole : exists k : Int, n.value = k) :
    (n.wholePart : ℚ) = n.value ↔ n.power = 0 ∨ n.coefficient = 0 := by
  have split : n.coefficient = Text.digitsToNat n.whole * 10 ^ n.fraction.length +
      Text.digitsToNat n.fraction :=
    Text.digitsToNat_append n.whole n.fraction
  have signed : n.sign ≠ 0 := by
    intro none
    have one := abs_sign n
    rw [none, abs_zero] at one
    exact zero_ne_one one
  rcases isWhole with ⟨k, isInteger⟩
  have positive : 0 ≤ (n.coefficient : ℚ) * (10 : ℚ) ^ (n.power - n.fraction.length) :=
    mul_nonneg (Nat.cast_nonneg _) (zpow_nonneg (by norm_num) _)
  have magnitude : (n.coefficient : ℚ) * (10 : ℚ) ^ (n.power - n.fraction.length) =
      (k.natAbs : Nat) := by
    rw [Nat.cast_natAbs, Int.cast_abs, ← isInteger, value, abs_mul, abs_sign, one_mul,
      abs_of_nonneg positive]
  rw [wholePart_eq, value, magnitude, mul_right_inj' signed, Nat.cast_inj, eq_comm]
  rw [split] at magnitude ⊢
  exact scaled_eq_iff (Text.digitsToNat_lt n.fraction) magnitude

end Numeral

namespace Default

/-! Numbers in quotes. -/

/-- The character begins neither the word for nothing nor a conversion, and it
opens no parenthesis. -/
def isQuiet (c : Char) : Bool :=
  c != ':' && c != '(' && !Text.sameLetter 'n' c

theorem isQuiet_of_mem {t : Text} {n : Numeral} (read : Numeral.ofText? t = some n) {c : Char}
    (member : c ∈ Text.inApostrophes t) : isQuiet c = true := by
  have quietDigits : (Text.charsIn Text.digitIntervals).all isQuiet = true := by decide +kernel
  have quietMarks : ('\'' :: Numeral.marks).all isQuiet = true := by decide +kernel
  have quote : c = '\'' ∨ c ∈ t := by simpa [Text.inApostrophes, or_comm] using member
  rcases quote with rfl | inside
  · exact List.all_eq_true.mp quietMarks _ List.mem_cons_self
  · rcases Numeral.isDigit_or_mem_marks read inside with digit | mark
    · exact List.all_eq_true.mp quietDigits c
        (Text.mem_charsIn (Text.inIntervals_of_isDecimalDigit digit))
    · exact List.all_eq_true.mp quietMarks c (List.mem_cons_of_mem _ mark)

section Quiet

variable {t : Text} (quiet : forall c, c ∈ t -> isQuiet c = true)

include quiet

theorem mentionsNull_of_quiet : DefaultKind.mentionsNull t = false := by
  refine Phrase.occursAfter_eq_false ?_ (fun before => nullWord_eq_nil rfl) none
  intro before c rest member
  have parts := quiet c member
  simp only [isQuiet, Bool.and_eq_true, Bool.not_eq_true'] at parts
  exact nullWord_eq_nil (Phrase.letters_eq_nil parts.2 _ rest)

theorem withoutCasts_of_quiet : withoutCasts t = t := by
  refine (withoutCasts_eq_self_iff t).mpr (Phrase.occursAfter_eq_false ?_ (fun _ => rfl) none)
  intro before c rest member
  have parts := quiet c member
  simp only [isQuiet, Bool.and_eq_true, bne_iff_ne] at parts
  exact textCast_eq_nil parts.1.1 rest

theorem has_now_of_quiet : Text.has "now(".toList (Text.lower t) = false := by
  rw [Bool.eq_false_iff]
  intro called
  have opened : '(' ∈ t := Text.mem_of_mem_lower (Text.mem_of_has called (by decide))
  exact absurd (quiet _ opened) (by decide)

end Quiet

theorem withoutApostrophes_inApostrophes (body : Text) :
    withoutApostrophes (Text.inApostrophes body) = Text.trim body := by
  have opened : Text.startsWith (Text.inApostrophes body) ['\''] = true := rfl
  have closed : Text.endsWith (body ++ ['\'']) ['\''] = true :=
    List.isSuffixOf_iff_suffix.mpr (List.suffix_append body ['\''])
  have tail : (Text.inApostrophes body).drop 1 = body ++ ['\''] := rfl
  simp only [withoutApostrophes, opened, if_true, tail, closed, List.dropLast_concat]

/-- The digits in front of the point are written where there are any; otherwise the
literal stays as it is. -/
theorem integerOr_of_numeral {t : Text} {n : Numeral} (read : Numeral.ofText? t = some n)
    (short : n.whole.length ≤ 4300) (fallback : Text) :
    integerOr fallback t = .ok (if n.whole = [] then fallback else Text.ofInt n.wholePart) := by
  have parts := Numeral.parts_of_ofText? read
  have few : ¬ Numeral.digitLimit < n.whole.length := Nat.not_lt.mpr short
  unfold integerOr
  simp only [parts.whole, parts.negative]
  cases digits : n.whole with
  | nil => simp only [if_true]
  | cons c rest =>
      rw [digits] at few
      simp only [Numeral.toInt?, if_neg few, Numeral.wholePart, digits, List.cons_ne_nil, if_false]

/-- A number in the column of a type of whole numbers, from its reading to its writing.  Its
digits in front of the point are written, or the number in quotes where there are none; so a
whole number keeps its value just if there are such digits and either its power of ten is zero or
all its digits are. -/
theorem whole_default_kept_iff {base v : Text} {length : Option Text} {n : Numeral}
    (integers : Text.has "INT".toList (Text.upper base) = true)
    (noTruth : TypeText.isBoolean base length = false)
    (read : Numeral.ofText? (Text.trim v) = some n) (short : n.whole.length ≤ 4300)
    (isWhole : exists k : Int, n.value = k) (d : Dialect) :
    exists stored written, normal? (some v) base length = some stored ∧
      render d stored base length = .ok (some written) ∧
      written = (if n.whole = [] then Text.inApostrophes (Text.trim v)
        else Text.ofInt n.wholePart) ∧
      ((exists m, Numeral.ofText? written = some m ∧ m.value = n.value) ↔
        n.whole ≠ [] ∧ (n.power = 0 ∨ n.coefficient = 0)) := by
  have bare := Text.unpadded_trim v
  have filled : Text.trim v ≠ [] := (Numeral.parts_of_ofText? read).nonempty
  have quietLiteral := fun c => isQuiet_of_mem (c := c) read
  have quiet : forall c, c ∈ Text.trim v -> isQuiet c = true := fun c member =>
    quietLiteral c (by simp [Text.inApostrophes, member])
  have isNumber : DefaultKind.ofText (Text.trim v) = .number := by
    have nothing := mentionsNull_of_quiet quiet
    simp [DefaultKind.ofText, DefaultKind.ofTrimmed, Text.trim_of_unpadded bare, nothing,
      DefaultKind.isNumber, read]
  have stored := normal?_of_trim rfl filled noTruth
  rw [normalOther, isNumber] at stored
  have written := render_inApostrophes d noTruth (Text.trim v)
  have uncast := withoutCasts_of_quiet quietLiteral
  have uncalled := has_now_of_quiet quietLiteral
  have present : (Text.trim v).isEmpty = false := List.isEmpty_eq_false_iff.mpr filled
  have number := integerOr_of_numeral read short (Text.inApostrophes (Text.trim v))
  simp only [uncast, uncalled, Bool.false_eq_true, and_false, if_false, numeric, integers, if_true,
    withoutApostrophes_inApostrophes, Text.trim_of_unpadded bare, present, number] at written
  refine ⟨_, _, stored, written, rfl, ?_⟩
  by_cases noDigits : n.whole = []
  · simp only [noDigits, if_true, ne_eq, not_true_eq_false, false_and, iff_false]
    rintro ⟨m, numeral, _⟩
    have noNumeral : Numeral.ofText? (Text.inApostrophes (Text.trim v)) = none := rfl
    rw [noNumeral] at numeral
    cases numeral
  · rw [if_neg noDigits, ← Numeral.wholePart_eq_value_iff isWhole, ne_eq, and_iff_right noDigits]
    rcases Numeral.exists_value_ofInt n.wholePart with ⟨m, numeral, valued⟩
    constructor
    · rintro ⟨other, same, equal⟩
      rw [numeral, Option.some.injEq] at same
      rw [← valued, same, equal]
    · intro equal
      exact ⟨m, numeral, valued.trans equal⟩

def thousand : Numeral :=
  ⟨false, "1".toList, false, [], some (false, "3".toList)⟩

def pointZero : Numeral :=
  ⟨false, [], true, "0".toList, none⟩

/-- A thousand, written with an exponent, becomes one, and a zero without a digit in front of its
point stays in quotes. -/
theorem whole_defaults_lost :
    (exists stored, normal? (some "1e3".toList) "INT" none = some stored ∧
      render .mysql stored "INT" none = .ok (some "1".toList) ∧
      ¬ exists m, Numeral.ofText? "1".toList = some m ∧ m.value = 1000) ∧
    (exists stored, normal? (some ".0".toList) "INT" none = some stored ∧
      render .mysql stored "INT" none = .ok (some (Text.inApostrophes ".0".toList))) := by
  have integers : Text.has "INT".toList (Text.upper "INT".toList) = true := by decide
  have noTruth : TypeText.isBoolean "INT".toList none = false := by decide
  constructor
  · have value : thousand.value = 1000 := by
      have digits : thousand.coefficient = 1 := by decide
      have power : thousand.power = 3 := by decide
      rw [Numeral.value, digits, power]
      norm_num [thousand, Numeral.sign]
    rcases whole_default_kept_iff integers noTruth (v := "1e3".toList) (n := thousand) (by decide)
        (by decide)
        ⟨1000, by rw [value]; norm_num⟩ .mysql with ⟨stored, written, read, rendered, rfl, kept⟩
    have one : Text.ofInt thousand.wholePart = "1".toList := by decide
    have scaled : ¬ (thousand.power = 0 ∨ thousand.coefficient = 0) := by decide
    rw [if_neg (by decide), one] at rendered kept
    rw [value] at kept
    exact ⟨stored, read, rendered, fun same => scaled (kept.mp same).2⟩
  · have value : pointZero.value = 0 := by
      have digits : pointZero.coefficient = 0 := by decide
      rw [Numeral.value, digits]
      simp
    rcases whole_default_kept_iff integers noTruth (v := ".0".toList) (n := pointZero) (by decide)
        (by decide)
        ⟨0, by rw [value]; norm_num⟩ .mysql with ⟨stored, written, read, rendered, rfl, _⟩
    have noDigits : pointZero.whole = [] := rfl
    rw [if_pos noDigits] at rendered
    have bare : Text.trim ".0".toList = ".0".toList := by decide
    rw [bare] at rendered
    exact ⟨stored, read, rendered⟩

end Default
end SchemaAtlas
