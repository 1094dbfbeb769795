import SchemaAtlas.Proofs.Default.Quoted
import SchemaAtlas.Proofs.Dialect.Mapped

namespace SchemaAtlas

/-!
The type of truth values and the default values that go with it.

A column of truth values is recognized twice: once by the name of its type and its length, which
decides how its default value is written, and once by the beginnings in the tables of types, which
decide what its type becomes.  The tables know no lengths.  So a wide bit field becomes a column of
truth values, and so does every type whose name only begins with the word for a bit, while its
default value is still written as bits.
-/

namespace Dialect

open Text

variable {d : Dialect} {t : Text} {length : Option Text}

/-! Sizes. -/

/-- A type of the table stays what it is, or something is put in parentheses behind it. -/
theorem sized_cases (d : Dialect) (mapped given : Text) :
    sized d mapped given = mapped ∨
      ('(' ∉ mapped ∧ exists inside, sized d mapped given = withParams mapped inside ∧
      (isPrecise mapped = true ∨ inside = given)) := by
  have bare : mapped.contains '(' = false -> '(' ∉ mapped := fun none member => by
    rw [List.contains_iff_mem.mpr member] at none
    cases none
  unfold sized
  split
  · exact .inl rfl
  · rename_i noParen
    split
    · rename_i precise
      split
      · exact .inl rfl
      · exact .inr ⟨bare (by simpa using noParen), _, rfl, .inl (Bool.and_eq_true_iff.mp precise).1⟩
    · split
      · exact .inr ⟨bare (by simpa using noParen), given, rfl, .inr rfl⟩
      · exact .inl rfl

theorem sized_booleanType (d : Dialect) (given : Text) :
    sized d d.booleanType given = d.booleanType := by
  have facts : forall d : Dialect, d.booleanType.contains '(' = true ∨
      (isPrecise d.booleanType = false ∧ d.lengthTypes.contains d.booleanType = false) := by
    intro d
    cases d with
    | mysql => exact .inl (by decide)
    | postgresql => exact .inr (by decide)
    | sqlite => exact .inr (by decide)
    | sqlserver => exact .inr (by decide)
  rcases facts d with fixed | ⟨loose, sizeless⟩
  · rw [sized, if_pos fixed]
  · simp only [sized, loose, sizeless, Bool.false_and, Bool.false_eq_true, if_false, ite_self]

/-- MySQL alone writes the type of truth values with a size. -/
theorem withParams_eq_booleanType_iff {base inside : Text} :
    withParams base inside = d.booleanType ↔
    d = .mysql ∧ base = "TINYINT".toList ∧ inside = "1".toList := by
  have split : withParams base inside = base ++ '(' :: (inside ++ [')']) := by simp [withParams]
  have last : (withParams base inside).getLast? = some ')' := by
    rw [withParams, List.getLast?_append_of_ne_nil _ (List.cons_ne_nil _ _)]
    rfl
  cases d with
  | mysql =>
      have whole : booleanType .mysql = "TINYINT".toList ++ '(' :: ("1".toList ++ [')']) := rfl
      have one : '(' ∉ "TINYINT".toList ∧ '(' ∉ "1".toList ++ [')'] := by decide
      rw [split, whole, eq_comm, List.append_cons_inj_of_notMem one.1 one.2, List.append_left_inj,
        eq_comm, eq_comm (a := "1".toList)]
      simp
  | postgresql => exact iff_of_false (fun same => absurd (same ▸ last) (by decide)) (by simp)
  | sqlite => exact iff_of_false (fun same => absurd (same ▸ last) (by decide)) (by simp)
  | sqlserver => exact iff_of_false (fun same => absurd (same ▸ last) (by decide)) (by simp)

/-! Beginnings in the tables. -/

/-- The beginnings that lead to the type of truth values: those of the word for a bit do whatever
else is in the table. -/
structure TruthBeginnings (d : Dialect) : Prop where
  bit : Unrivalled d ("bit".toList, d.booleanType)
  only : forall entry, entry ∈ d.types -> entry.2 = d.booleanType -> entry.1 = "bit".toList ∨
    entry.1 = "boolean".toList

theorem truthBeginnings (d : Dialect) : TruthBeginnings d := by
  cases d with
  | mysql => exact ⟨by decide +kernel, by decide +kernel⟩
  | postgresql => exact ⟨by decide +kernel, by decide +kernel⟩
  | sqlite => exact ⟨by decide +kernel, by decide +kernel⟩
  | sqlserver => exact ⟨by decide +kernel, by decide +kernel⟩

/-- MySQL's tiny integers have one beginning. -/
theorem tinyintBeginning : Unrivalled .mysql ("tinyint".toList, "TINYINT".toList) ∧
    forall entry, entry ∈ types .mysql -> entry.2 = "TINYINT".toList ->
      entry.1 = "tinyint".toList :=
  ⟨by decide +kernel, by decide +kernel⟩

theorem startsWith_trans {t middle front : Text} (whole : startsWith t middle = true)
    (part : startsWith middle front = true) : startsWith t front = true := by
  simp only [startsWith, List.isPrefixOf_iff_prefix] at *
  exact part.trans whole

/-- No list of values begins with a letter that begins a type of truth values. -/
theorem not_startsWith_of_isValueList {word : Text}
    (listed : word ∈ ["bit".toList, "tinyint".toList])
    (isList : TypeText.isValueList (upper (TypeText.ofText t).base) = true) :
    startsWith (key t) word = false := by
  have heads : forall word, word ∈ ["bit".toList, "tinyint".toList] -> exists w, w ∈ plainLetters ∧
      startsWith word [w] = true ∧ startsWith "ENUM".toList [w.toUpper] = false ∧
        startsWith "SET".toList [w.toUpper] = false := by
    intro word listed
    rcases List.mem_cons.mp listed with rfl | later
    · exact ⟨'b', by decide⟩
    · rw [List.mem_singleton.mp later]
      exact ⟨'t', by decide⟩
  rcases heads word listed with ⟨w, plain, first, noEnum, noSet⟩
  rw [Bool.eq_false_iff]
  intro begins
  have letter : forall v, v ∈ [w] -> v ∈ plainLetters :=
    fun v member => List.mem_singleton.mp member ▸ plain
  have capital := startsWith_upper_of_lower letter (startsWith_trans begins first)
  rcases Bool.or_eq_true_iff.mp isList with enum | set
  · rw [beq_iff_eq.mp enum, List.map_singleton, noEnum] at capital
    cases capital
  · rw [beq_iff_eq.mp set, List.map_singleton, noSet] at capital
    cases capital

theorem has_bool_of_startsWith (begins : startsWith (key t) "boolean".toList = true) :
    has "BOOL".toList (upper (TypeText.ofText t).base) = true := by
  have word : forall w, w ∈ "bool".toList -> w ∈ plainLetters :=
    List.all_iff_forall_prop.mp (by decide)
  have capital := startsWith_upper_of_lower word (startsWith_trans begins (by decide))
  have first : "bool".toList.map Char.toUpper = "BOOL".toList := by decide
  rw [first] at capital
  cases shape : upper (TypeText.ofText t).base with
  | nil =>
      rw [shape] at capital
      cases capital
  | cons c rest =>
      rw [shape] at capital
      rw [has, Bool.or_eq_true]
      exact .inl capital

/-! The type. -/

theorem listText_ne_booleanType {base : Text} (isList : TypeText.isValueList base = true)
    (values : List Text) : listText d base values ≠ d.booleanType := by
  have other : base ≠ "TINYINT".toList := by
    rintro rfl
    exact absurd isList (by decide)
  intro same
  rw [listText] at same
  split at same
  · exact other (withParams_eq_booleanType_iff.mp same).2.1
  · rename_i text found
    rcases withParams_eq_booleanType_iff.mp same with ⟨rfl, _, _⟩
    cases found

section Named

variable (named : (TypeText.ofText t).params = none)

include named

/-- What is not listed in the table becomes no type of truth values, and it begins like none. -/
theorem absent_ne_booleanType (noTruth : TypeText.isBoolean t length = false)
    (absent : lookup? d (TypeText.ofText t).base = none) (given : Text) :
    withParams (TypeText.ofText t).base given ≠ d.booleanType ∧ trim t ≠ d.booleanType := by
  constructor
  · intro same
    rcases withParams_eq_booleanType_iff.mp same with ⟨rfl, base, _⟩
    rw [base] at absent
    exact absurd absent (by decide +kernel)
  · intro same
    have parts : TypeText.ofText d.booleanType = TypeText.ofText t := by
      rw [← same, TypeText.ofText_trim]
    have asked : TypeText.isBoolean d.booleanType length = false := by
      rw [← same, ← noTruth, TypeText.isBoolean, TypeText.isBoolean,
        trim_of_unpadded (unpadded_trim t)]
    cases d with
    | mysql =>
        rw [← parts] at named
        exact absurd named (by decide)
    | postgresql =>
        have truth := TypeText.isBoolean_of_has (t := booleanType .postgresql) (by decide)
          (by decide) length
        rw [asked] at truth
        cases truth
    | sqlite =>
        have truth := TypeText.isBoolean_of_has (t := booleanType .sqlite) (by decide)
          (by decide) length
        rw [asked] at truth
        cases truth
    | sqlserver =>
        rw [← parts] at absent
        exact absurd absent (by decide +kernel)

/-- The type of truth values comes out of the table for the word of a bit and all that begins
with it, and in MySQL for the tiny integers of one digit. -/
theorem sized_eq_booleanType_iff (noTruth : TypeText.isBoolean t length = false) {mapped : Text}
    (found : lookup? d (TypeText.ofText t).base = some mapped) :
    sized d mapped (length.getD []) = d.booleanType ↔
      startsWith (key t) "bit".toList = true ∨
        (d = .mysql ∧ startsWith (key t) "tinyint".toList = true ∧ length = some "1".toList) := by
  rcases exists_entry_of_lookup? found with ⟨entry, inTable, begins, rfl⟩
  constructor
  · intro same
    rcases sized_cases d entry.2 (length.getD []) with plain | ⟨_, inside, written, reason⟩
    · rw [plain] at same
      rcases (truthBeginnings d).only entry inTable same with bit | boolean
      · exact .inl (bit ▸ begins)
      · rw [boolean] at begins
        rw [TypeText.isBoolean_of_has named (has_bool_of_startsWith begins) length] at noTruth
        cases noTruth
    · rw [written] at same
      rcases withParams_eq_booleanType_iff.mp same with ⟨rfl, tiny, one⟩
      refine .inr ⟨rfl, tinyintBeginning.2 entry inTable tiny ▸ begins, ?_⟩
      rcases reason with precise | given
      · rw [tiny] at precise
        exact absurd precise (by decide)
      · rw [given] at one
        cases length with
        | none => exact absurd one (by decide)
        | some size => rw [← one]; rfl
  · rintro (bit | ⟨rfl, tiny, rfl⟩)
    · have mapped := lookup?_of_unrivalled (truthBeginnings d).bit bit
      rw [found, Option.some.injEq] at mapped
      rw [mapped]
      exact sized_booleanType d _
    · have mapped := lookup?_of_unrivalled tinyintBeginning.1 tiny
      rw [found, Option.some.injEq] at mapped
      rw [mapped]
      decide

/-- The types that become the dialect's type of truth values: those that hold truth values, and
besides them every name that begins with the word for a bit, whatever its length, and in MySQL
every name that begins like a tiny integer, if its length is one. -/
theorem columnType_eq_booleanType_iff (length : Option Text) (d : Dialect) :
    columnType d t length none = d.booleanType ↔ TypeText.isBoolean t length = true ∨
      startsWith (key t) "bit".toList = true ∨
        (d = .mysql ∧ startsWith (key t) "tinyint".toList = true ∧ length = some "1".toList) := by
  have sameLength : length.or (TypeText.ofText t).params = length := by rw [named, Option.or_none]
  have upperBase := TypeText.isBoolean_upper_base named length
  cases truth : TypeText.isBoolean t length with
  | true =>
      rw [columnType_truth (by rw [sameLength, upperBase, truth])]
      simp
  | false =>
      have noTruth : TypeText.isBoolean (upper (TypeText.ofText t).base)
          (length.or (TypeText.ofText t).params) = false := by
        rw [sameLength, upperBase, truth]
      simp only [Bool.false_eq_true, false_or]
      cases isList : TypeText.isValueList (upper (TypeText.ofText t).base) with
      | true =>
          have noBit : startsWith (key t) "bit".toList = false :=
            not_startsWith_of_isValueList (by decide) isList
          have noTiny : startsWith (key t) "tinyint".toList = false :=
            not_startsWith_of_isValueList (by decide) isList
          rw [columnType_listed noTruth isList, noBit, noTiny]
          exact iff_of_false (listText_ne_booleanType isList _) (by simp)
      | false =>
          cases found : lookup? d (TypeText.ofText t).base with
          | some mapped =>
              rw [columnType_found noTruth isList found, sameLength]
              exact sized_eq_booleanType_iff named truth found
          | none =>
              rw [columnType_absent noTruth isList found, sameLength]
              rcases absent_ne_booleanType named truth found (length.getD []) with ⟨noSize, noName⟩
              refine iff_of_false ?_ ?_
              · split
                · exact noSize
                · exact noName
              · rintro (bit | ⟨rfl, tiny, _⟩)
                · rw [lookup?_of_unrivalled (truthBeginnings d).bit bit] at found
                  cases found
                · rw [lookup?_of_unrivalled tinyintBeginning.1 tiny] at found
                  cases found

end Named

/-! The default value. -/

def vocabulary (d : Dialect) : List Text :=
  [Default.truthLiteral d "TRUE", Default.truthLiteral d "FALSE"]

/-- Whatever the default value, it is written as a truth value, or as nothing or the
current time, or not at all. -/
def WritesTruths (d : Dialect) (base : Text) (length : Option Text) : Prop :=
  forall value, exists written, Default.render d value base length = .ok written ∧
    forall t, written = some t -> t ∈ "NULL".toList :: "CURRENT_TIMESTAMP".toList :: vocabulary d

theorem truthLiteral_mem_vocabulary (d : Dialect) (t : Text) :
    Default.truthLiteral d t ∈ vocabulary d := by
  have both : Default.isTruthy "TRUE".toList = true ∧
    Default.isTruthy "FALSE".toList = false := by decide
  simp only [vocabulary, Default.truthLiteral, both]
  cases Default.isTruthy t with
  | true => exact List.mem_cons_self
  | false => exact List.mem_cons_of_mem _ List.mem_cons_self

/-- A literal that holds no number is written as it is by any type that holds no truth values. -/
theorem numeric_letter (base : Text) :
    Default.numeric base (Text.inApostrophes "x".toList) = .ok (Text.inApostrophes "x".toList) := by
  have bare : Default.withoutApostrophes (Text.inApostrophes "x".toList) = "x".toList := by decide
  have noInteger : forall fallback, Default.integerOr fallback "x".toList = .ok fallback :=
    fun _ => rfl
  have noReal : forall fallback, Default.realOr fallback "x".toList = fallback := fun _ => rfl
  have filled : List.isEmpty "x".toList = false := by decide
  simp only [Default.numeric, bare, filled, noInteger, noReal, Bool.false_eq_true,
    if_false, ite_self]

theorem isBoolean_iff_writesTruths (d : Dialect) (base : Text) (length : Option Text) :
    TypeText.isBoolean base length = true ↔ WritesTruths d base length := by
  constructor
  · intro truth value
    simp only [Default.render, truth, if_true]
    split
    · exact ⟨none, rfl, by simp⟩
    · split
      · exact ⟨none, rfl, by simp⟩
      · split
        · exact ⟨_, rfl, by simp⟩
        · split
          · exact ⟨_, rfl, by simp⟩
          · refine ⟨_, rfl, ?_⟩
            rintro t written
            obtain rfl := Option.some.inj written
            simp [truthLiteral_mem_vocabulary]
  · intro writes
    by_contra noTruth
    rw [Bool.not_eq_true] at noTruth
    rcases writes (Text.inApostrophes "x".toList) with ⟨written, rendered, within⟩
    have noCast : Default.withoutCasts (Text.inApostrophes "x".toList) =
        Text.inApostrophes "x".toList :=
      (Default.withoutCasts_eq_self_iff _).mpr (by decide +kernel)
    have noCall : has "now(".toList (lower (Text.inApostrophes "x".toList)) = false := by decide
    rw [Default.render_inApostrophes d noTruth, noCast, noCall, numeric_letter] at rendered
    simp only [Bool.false_eq_true, and_false, if_false] at rendered
    have outside := within _ (Except.ok.inj rendered).symm
    revert outside
    cases d with
    | mysql => decide
    | postgresql => decide
    | sqlite => decide
    | sqlserver => decide

/-- The type and the default value of a column of a type without parameters.  The default value
is written as a truth value just if the type holds truth values.  The type becomes the type of
truth values then as well, but also for every name that begins with the word for a bit, whatever
its length, and in MySQL for every name that begins like a tiny integer, if its length is one. -/
theorem truth_of_type_and_default {base : Text} (named : (TypeText.ofText base).params = none)
    (length : Option Text) (d : Dialect) :
    (columnType d base length none = d.booleanType ↔ TypeText.isBoolean base length = true ∨
      startsWith (key base) "bit".toList = true ∨
        (d = .mysql ∧ startsWith (key base) "tinyint".toList = true ∧ length = some "1".toList)) ∧
      (TypeText.isBoolean base length = true ↔ WritesTruths d base length) :=
  ⟨columnType_eq_booleanType_iff named length d, isBoolean_iff_writesTruths d base length⟩

/-- A field of eight bits becomes a column of truth values, and its default
value is not written as one. -/
theorem wide_bit_disagrees :
    (TypeText.ofText "BIT".toList).params = none ∧
      columnType .postgresql "BIT" (some "8".toList) none = booleanType .postgresql ∧
      TypeText.isBoolean "BIT" (some "8".toList) = false ∧
        ¬ WritesTruths .postgresql "BIT" (some "8".toList) := by
  have named : (TypeText.ofText "BIT".toList).params = none := by decide +kernel
  have noTruth : TypeText.isBoolean "BIT".toList (some "8".toList) = false := by decide
  rcases truth_of_type_and_default named (some "8".toList) .postgresql with ⟨type, default⟩
  refine ⟨named, type.mpr (.inr (.inl (by decide +kernel))), noTruth, fun writes => ?_⟩
  rw [default.mpr writes] at noTruth
  cases noTruth

end Dialect
end SchemaAtlas
