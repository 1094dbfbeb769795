import SchemaAtlas.Proofs.Case
import SchemaAtlas.Proofs.Insert.Cell
import SchemaAtlas.Proofs.Keyed
import SchemaAtlas.Proofs.Text
import SchemaAtlas.Settings.Build

namespace SchemaAtlas

/-!
The dialect among the settings.

Settings are checked by the text that their dialect is shown with, whatever its value is, while
definitions are written only in a dialect that a text names.  The two ask for the same, because the
text of a value that is no text begins with a sign, a digit or one of a few letters, and the name of
no dialect does.
-/

namespace Value

/-- The characters of numbers, and those that lists, mappings, truth values and the
missing value begin with. -/
def markIntervals : List (Nat × Nat) :=
  [(0x2B, 0x2B), (0x2D, 0x2E), (0x30, 0x39), (0x46, 0x46), (0x4E, 0x4E), (0x54, 0x54), (0x5B, 0x5B),
   (0x65, 0x66), (0x69, 0x69), (0x6E, 0x6E), (0x7B, 0x7B)]

/-- A character of numbers, or one that the text of a value begins with that is
neither a number nor a text. -/
def isMark (c : Char) : Bool :=
  Text.inIntervals markIntervals c

/-- What is checked of the marks: they are characters of ASCII, not blank, and begin
the name of no dialect. -/
structure MarkFacts : Prop where
  ascii : ((Text.charsIn markIntervals).all fun c => decide (c.toNat < 0x80)) = true
  solid : ((Text.charsIn markIntervals).all fun c => !Text.isBlank c) = true
  apart : ((Text.charsIn markIntervals).all fun c =>
    (Keyed.names Dialect.aliases).all fun name => name.head? != some c.toLower) = true

theorem markFacts : MarkFacts where
  ascii := by decide +kernel
  solid := by decide +kernel
  apart := by decide +kernel

section
variable {c : Char} (mark : isMark c = true)
include mark

theorem ascii_of_isMark : c.toNat < 0x80 :=
  of_decide_eq_true (List.all_eq_true.mp markFacts.ascii c (Text.mem_charsIn mark))

theorem isBlank_of_isMark : Text.isBlank c = false := by
  simpa using List.all_eq_true.mp markFacts.solid c (Text.mem_charsIn mark)

theorem head?_ne_of_isMark {name : Text} (listed : name ∈ Keyed.names Dialect.aliases) :
    name.head? ≠ some c.toLower :=
  bne_iff_ne.mp (List.all_eq_true.mp
    (List.all_eq_true.mp markFacts.apart c (Text.mem_charsIn mark)) name listed)

end

theorem isMark_of_all {t : Text} (all : t.all isMark = true) : forall c, c ∈ t -> isMark c = true :=
  List.all_eq_true.mp all

theorem isMark_of_isDigit {c : Char} (digit : c.isDigit = true) : isMark c = true := by
  have bounds : 48 ≤ c.toNat ∧ c.toNat ≤ 57 := Char.isDigit_iff_toNat.mp digit
  simp only [isMark, Text.inIntervals, markIntervals, List.any_cons, Bool.or_eq_true,
    Bool.and_eq_true, decide_eq_true_eq]
  omega

theorem isMark_of_mem_ofInt {n : Int} {c : Char} (member : c ∈ Text.ofInt n) : isMark c = true := by
  rcases Bool.or_eq_true_iff.mp (Insert.Cell.isNumberChar_of_mem_ofInt member) with digit | sign
  · exact isMark_of_isDigit digit
  · rw [beq_iff_eq.mp sign]
    decide

end Value

namespace Binary64

open Value

theorem isMark_of_mem_zeros (n : Nat) : forall c, c ∈ zeros n -> isMark c = true := by
  intro c member
  rw [List.eq_of_mem_replicate member]
  decide

theorem isMark_of_mem_ofNat (n : Nat) : forall c, c ∈ Text.ofNat n -> isMark c = true :=
  fun _ member => isMark_of_isDigit (Numeral.isDigit_of_mem_ofNat member)

theorem isMark_of_mem_sign (negative : Bool) : forall c, c ∈ sign negative -> isMark c = true := by
  cases negative with
  | true => exact isMark_of_all (by decide)
  | false => exact isMark_of_all rfl

theorem isMark_of_mem_layOut {digits : Text}
    (each : forall c, c ∈ digits -> isMark c = true) (point : Int) :
    forall c, c ∈ layOut digits point -> isMark c = true := by
  have taken : forall n, forall c, c ∈ digits.take n -> isMark c = true :=
    fun _ c member => each c (List.mem_of_mem_take member)
  have dropped : forall n, forall c, c ∈ digits.drop n -> isMark c = true :=
    fun _ c member => each c (List.mem_of_mem_drop member)
  unfold layOut
  split
  · split
    · simp only [List.forall_mem_append]
      exact ⟨⟨isMark_of_all (by decide), isMark_of_mem_zeros _⟩, each⟩
    · split
      · simp only [List.forall_mem_append]
        exact ⟨⟨each, isMark_of_mem_zeros _⟩, isMark_of_all (by decide)⟩
      · simp only [List.forall_mem_append]
        exact ⟨⟨taken _, isMark_of_all (by decide)⟩, dropped _⟩
  · simp only [List.forall_mem_append]
    refine ⟨⟨⟨⟨taken 1, ?_⟩, ?_⟩, isMark_of_mem_zeros _⟩, isMark_of_mem_ofNat _⟩
    · split
      · exact fun c member => nomatch member
      · exact List.forall_mem_cons.mpr ⟨by decide, dropped 1⟩
    · split <;> exact isMark_of_all (by decide)

theorem isMark_of_mem_format (x : Binary64) : forall c, c ∈ x.format -> isMark c = true := by
  cases x with
  | infinite negative =>
      rw [format, List.forall_mem_append]
      exact ⟨isMark_of_mem_sign negative, isMark_of_all (by decide)⟩
  | finite negative mantissa exponent =>
      have digits : forall n, forall c, c ∈ significantDigits n -> isMark c = true := by
        intro n c member
        have inside := (List.dropWhile_sublist _).mem (List.mem_reverse.mp member)
        exact isMark_of_mem_ofNat n c (List.mem_reverse.mp inside)
      rw [format]
      split
      · rw [List.forall_mem_append]
        exact ⟨isMark_of_mem_sign negative, isMark_of_all (by decide)⟩
      · rw [List.forall_mem_append]
        exact ⟨isMark_of_mem_sign negative, isMark_of_mem_layOut (digits _) _⟩

end Binary64

namespace Text

/-- A text keeps its beginning in lower case, when that is solid and of ASCII. -/
theorem exists_lower_trim {c : Char} (solid : isBlank c = false) (ascii : c.toNat < 0x80)
    (rest : Text) : exists more, lower (trim (c :: rest)) = c.toLower :: more := by
  have start : trimStart (c :: rest) = c :: rest := List.dropWhile_cons_of_neg (by simp [solid])
  refine ⟨lowerAfter [c] (trimEnd rest), ?_⟩
  rw [trim, start, trimEnd_cons solid, lower, lowerAfter, not_sigma_of_ascii ascii, lowerChar,
    if_pos ascii]
  rfl

end Text

namespace Value

theorem isMark_of_head_inner {v : Value} (noText : v.text? = none) {c : Char}
    (first : v.inner.head? = some c) : isMark c = true := by
  cases v with
  | null =>
      obtain rfl := Option.some.inj first
      decide
  | bool b =>
      cases b <;>
      · obtain rfl := Option.some.inj first
        decide
  | int n => exact isMark_of_mem_ofInt (List.mem_of_head? first)
  | real x => exact x.isMark_of_mem_format c (List.mem_of_head? first)
  | text t => cases noText
  | list items =>
      obtain rfl := Option.some.inj first
      decide
  | mapping entries =>
      obtain rfl := Option.some.inj first
      decide

theorem display_of_text?_eq_none {v : Value} (noText : v.text? = none) : v.display = v.inner := by
  cases v with
  | text t => cases noText
  | _ => rfl

end Value

namespace Dialect

/-- No dialect has a name that is the text of a value of another kind. -/
theorem get?_aliases_display {v : Value} (noText : v.text? = none) :
    Keyed.get? (Text.lower (Text.trim v.display)) aliases = none := by
  rw [Value.display_of_text?_eq_none noText]
  cases shown : v.inner with
  | nil => rfl
  | cons c rest =>
      have mark : Value.isMark c = true :=
        Value.isMark_of_head_inner noText (by rw [shown, List.head?_cons])
      obtain ⟨more, begins⟩ :=
        Text.exists_lower_trim (Value.isBlank_of_isMark mark) (Value.ascii_of_isMark mark) rest
      rw [begins, Keyed.get?_eq_none_iff]
      exact fun listed => Value.head?_ne_of_isMark mark listed rfl

theorem ofValue_eq_ok_iff {v : Value} {d : Dialect} :
    ofValue v = .ok d ↔ exists t, v = .text t ∧ ofName? t = some d := by
  cases v with
  | text t =>
      simp only [ofValue, Value.text?, Option.getD_some, Value.text.injEq, exists_eq_left']
      cases ofName? t with
      | none => simp
      | some other => simp
  | _ =>
      constructor
      · intro named
        cases named
      · rintro ⟨t, ⟨⟩, _⟩

/-- The text that a value is shown with is the name of a dialect just if the
value names a dialect. -/
theorem isSome_get?_aliases_display_iff (v : Value) :
    (Keyed.get? (Text.lower (Text.trim v.display)) aliases).isSome = true ↔
      exists d, ofValue v = .ok d := by
  simp only [ofValue_eq_ok_iff]
  cases text : v.text? with
  | none =>
      rw [get?_aliases_display text]
      constructor
      · intro found
        cases found
      · rintro ⟨_, t, rfl, _⟩
        cases text
  | some t =>
      cases v with
      | text u =>
          rw [Option.isSome_iff_exists]
          constructor
          · rintro ⟨d, named⟩
            exact ⟨d, u, rfl, named⟩
          · rintro ⟨d, _, ⟨⟩, named⟩
            exact ⟨d, named⟩
      | _ => cases text

end Dialect
end SchemaAtlas
