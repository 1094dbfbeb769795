import SchemaAtlas.Ddl
import SchemaAtlas.Proofs.Dialect.Mapped
import SchemaAtlas.Proofs.Text
import SchemaAtlas.Table.Element

namespace SchemaAtlas

/-!
Column types as MySQL writes them.

Whatever type a column has, MySQL writes one of three spellings: a name alone, a name with numbers,
or a name with literals.  The spelling stands for itself: the type that is read from it is written
the same way again.  For that the name must be one that the table of types maps onto itself, which
is settled once for all names.
-/

namespace Text

/-- A number in digits of any script. -/
structure IsDigits (t : Text) : Prop where
  nonempty : t ≠ []
  digits : forall c, c ∈ t -> isDecimalDigit c = true

end Text

namespace Dialect

open Text

/-- A number, or two of them with a comma between. -/
def IsLength (length : Text) : Prop :=
  IsDigits length ∨ exists whole places, IsDigits whole ∧ IsDigits places ∧
    length = whole ++ ',' :: places

/-- A column type as MySQL writes it. -/
inductive Spelling where
  | bare (base : Text)
  | sized (base : Text) (runs : List Text)
  | listed (base : Text) (values : List Text)
deriving Inhabited

namespace Spelling

def base : Spelling -> Text
  | .bare base => base
  | .sized base _ => base
  | .listed base _ => base

def length : Spelling -> Option Text
  | .sized _ runs => some (join [','] runs)
  | _ => none

def values : Spelling -> Option (List Text)
  | .listed _ values => some values
  | _ => none

def text : Spelling -> Text
  | .bare base => base
  | .sized base runs => withParams base (join [','] runs)
  | .listed base values => withParams base (literalList values)

/-- What stands in the parentheses can be read again. -/
def Legible : Spelling -> Prop
  | .bare base => TypeText.isValueList base = false
  | .sized base runs =>
      TypeText.isValueList base = false ∧ runs ≠ [] ∧ forall run, run ∈ runs -> IsDigits run
  | .listed base values =>
      TypeText.isValueList base = true ∧ forall value, value ∈ values -> '\\' ∉ value

/-- The spelling is one that MySQL writes for the type that it shows. -/
structure Stands (w : Spelling) : Prop where
  known : w.base ∈ Token.typeNames
  uncounted : w.base ∉ Table.serialTypes
  legible : w.Legible
  again : columnType .mysql w.base w.length w.values = w.text

end Spelling

/-! Names of types. -/

/-- The names that the table of MySQL types maps onto themselves. -/
def mappedNames : List Text :=
  ["BIGINT".toList, "MEDIUMINT".toList, "SMALLINT".toList, "INT".toList, "TINYINT".toList,
   "DOUBLE".toList, "FLOAT".toList, "DECIMAL".toList, "NUMERIC".toList, "TINYTEXT".toList,
   "MEDIUMTEXT".toList, "LONGTEXT".toList, "TEXT".toList, "VARCHAR".toList, "CHAR".toList,
   "DATETIME".toList, "DATE".toList, "TIMESTAMP".toList, "JSON".toList]

/-- The names that the table does not have and that are no names of truth values. -/
def unmappedNames : List Text :=
  ["TIME".toList, "BLOB".toList]

theorem ofText_of_known : forall base, base ∈ Token.typeNames ->
    TypeText.ofText base = ⟨base, none⟩ ∧ Text.upper base = base ∧ Text.trim base = base := by
  decide +kernel

theorem isTypeName_of_known {base : Text} (known : base ∈ Token.typeNames) :
    Token.isTypeName base = true := by
  rw [Token.isTypeName, (ofText_of_known base known).2.1]
  exact List.contains_iff_mem.mpr known

/-- What the table makes of the names that are no lists of values. -/
theorem lookup?_of_known :
    forall base, base ∈ Token.typeNames -> TypeText.isValueList base = false ->
    (lookup? .mysql base = none ∧ (base = "BOOL".toList ∨ base ∈ unmappedNames)) ∨
      lookup? .mysql base = some "TINYINT(1)".toList ∨
      lookup? .mysql base = some "CHAR(36)".toList ∨
      exists mapped, mapped ∈ mappedNames ∧ lookup? .mysql base = some mapped ∧
        (mapped = "TINYINT".toList -> base = "TINYINT".toList) := by
  decide +kernel

/-- The names that MySQL writes, taken apart from the lists of values. -/
structure Own (base : Text) : Prop where
  known : base ∈ Token.typeNames
  uncounted : base ∉ Table.serialTypes
  noList : TypeText.isValueList base = false
  noBit : base ≠ "BIT".toList
  noBool : Text.has "BOOL".toList base = false

theorem own_of_mem {base : Text} (member : base ∈ mappedNames ++ unmappedNames) : Own base := by
  have facts : forall base, base ∈ mappedNames ++ unmappedNames ->
      base ∈ Token.typeNames ∧ base ∉ Table.serialTypes ∧ TypeText.isValueList base = false ∧
        base ≠ "BIT".toList ∧ Text.has "BOOL".toList base = false := by
    decide +kernel
  rcases facts base member with ⟨known, uncounted, noList, noBit, noBool⟩
  exact ⟨known, uncounted, noList, noBit, noBool⟩

theorem lookup?_of_mapped : forall base, base ∈ mappedNames ->
    lookup? .mysql base = some base ∧ base.contains '(' = false := by
  decide +kernel

/-- Of the names that MySQL writes, one alone may hold truth values. -/
theorem isBoolean_of_own {base : Text} (own : Own base) (length : Option Text) :
    TypeText.isBoolean base length =
      (base == "TINYINT".toList && length.map Text.trim == some "1".toList) := by
  rcases ofText_of_known base own.known with ⟨_, upper, trimmed⟩
  have noBit : (base == "BIT".toList) = false := beq_eq_false_iff_ne.mpr own.noBit
  simp only [TypeText.isBoolean, trimmed, upper, noBit, own.noBool, Bool.false_eq_true, if_false]

theorem isBoolean_bool (length : Option Text) : TypeText.isBoolean "BOOL".toList length = true := by
  rcases ofText_of_known "BOOL".toList (by decide) with ⟨_, upper, trimmed⟩
  simp only [TypeText.isBoolean, trimmed, upper]
  rw [if_neg (by decide), if_pos (by decide)]

/-! Types. -/

/-- A type with a length, for a name that the table has. -/
def sizedType (mapped given : Text) : Text :=
  if isPrecise mapped && !given.isEmpty then
    match numericParams given with
    | [] => mapped
    | params => withParams mapped (join [','] params)
  else if (lengthTypes .mysql).contains mapped && !given.isEmpty &&
    given.all isAnyDigit then withParams mapped given
  else mapped

section Known

variable {base : Text} {length : Option Text} (known : base ∈ Token.typeNames)

include known

theorem isBoolean_of_known (length : Option Text) :
    TypeText.isBoolean (upper (TypeText.ofText base).base)
      (length.or (TypeText.ofText base).params) =
      TypeText.isBoolean base length := by
  rcases ofText_of_known base known with ⟨parts, upper, _⟩
  rw [parts, upper, Option.or_none]

theorem isValueList_of_known :
    TypeText.isValueList (upper (TypeText.ofText base).base) = TypeText.isValueList base := by
  rcases ofText_of_known base known with ⟨parts, upper, _⟩
  rw [parts, upper]

theorem lookup?_base_of_known :
    lookup? .mysql (TypeText.ofText base).base = lookup? .mysql base := by
  rw [(ofText_of_known base known).1]

theorem columnType_of_truth (truth : TypeText.isBoolean base length = true)
    (values : Option (List Text)) : columnType .mysql base length values = "TINYINT(1)".toList :=
  columnType_truth ((isBoolean_of_known known length).trans truth) values

theorem columnType_of_list (isList : TypeText.isValueList base = true)
    (values : Option (List Text)) :
    columnType .mysql base none values = withParams base (literalList (values.getD [])) := by
  have noTruth := isBoolean_of_isValueList isList none
  have nothing : listedValues [] = [] := by rw [listedValues]
  rcases ofText_of_known base known with ⟨parts, upper, _⟩
  rw [columnType_listed ((isBoolean_of_known known none).trans noTruth)
    ((isValueList_of_known known).trans isList), parts, upper, Option.or_none,
      Option.getD_none, nothing]
  rfl

variable (noTruth : TypeText.isBoolean base length = false)
  (noList : TypeText.isValueList base = false) (values : Option (List Text))

include noTruth noList

theorem columnType_of_unmapped (absent : lookup? .mysql base = none) :
    columnType .mysql base length values =
      if (length.getD []).isEmpty then base else withParams base (length.getD []) := by
  rcases ofText_of_known base known with ⟨parts, _, trimmed⟩
  rw [columnType_absent ((isBoolean_of_known known length).trans noTruth)
    ((isValueList_of_known known).trans noList)
    ((lookup?_base_of_known known).trans absent), parts, trimmed, Option.or_none,
      Option.isNone_none, Bool.and_true]
  cases (length.getD []).isEmpty with
  | true => rfl
  | false => rfl

theorem columnType_of_lookup {mapped : Text} (found : lookup? .mysql base = some mapped) :
    columnType .mysql base length values =
      if mapped.contains '(' then mapped else sizedType mapped (length.getD []) := by
  rw [columnType_found ((isBoolean_of_known known length).trans noTruth)
    ((isValueList_of_known known).trans noList)
    ((lookup?_base_of_known known).trans found), (ofText_of_known base known).1, Option.or_none]
  rfl

end Known

/-! Lengths. -/

theorem IsLength.exists_runs {length : Text} (isLength : IsLength length) :
    exists runs, runs ≠ [] ∧ (forall run, run ∈ runs -> IsDigits run) ∧
      length = join [','] runs := by
  rcases isLength with number | ⟨whole, places, wholeDigits, placesDigits, rfl⟩
  · refine ⟨[length], by simp, ?_, (join_singleton _ _).symm⟩
    intro run member
    rw [List.mem_singleton.mp member]
    exact number
  · refine ⟨[whole, places], by simp, ?_, ?_⟩
    · intro run member
      rcases List.mem_cons.mp member with rfl | later
      · exact wholeDigits
      · rw [List.mem_singleton.mp later]
        exact placesDigits
    · rw [join_cons_cons, join_singleton, List.append_assoc]
      rfl

theorem IsLength.nonempty {length : Text} (isLength : IsLength length) : length ≠ [] := by
  rcases isLength with number | ⟨whole, places, _, _, rfl⟩
  · exact number.nonempty
  · simp

theorem IsLength.mem {length : Text} (isLength : IsLength length) {c : Char} (member : c ∈ length) :
    isDecimalDigit c = true ∨ c = ',' := by
  rcases isLength with number | ⟨whole, places, wholeDigits, placesDigits, rfl⟩
  · exact Or.inl (number.digits c member)
  · rcases List.mem_append.mp member with inWhole | behind
    · exact Or.inl (wholeDigits.digits c inWhole)
    · rcases List.mem_cons.mp behind with rfl | inPlaces
      · exact Or.inr rfl
      · exact Or.inl (placesDigits.digits c inPlaces)

theorem IsLength.isDigits {length : Text} (isLength : IsLength length)
    (all : length.all isAnyDigit = true) : IsDigits length := by
  rcases isLength with number | ⟨whole, places, _, _, rfl⟩
  · exact number
  · have comma := List.all_eq_true.mp all ',' (by simp)
    exact absurd comma (by decide)

theorem mem_numericParams {length run : Text} (member : run ∈ numericParams length) :
    run ≠ [] ∧ forall c, c ∈ run -> c ∈ length ∧ isParamChar c = true := by
  rcases List.mem_filter.mp member with ⟨piece, filled⟩
  constructor
  · rintro rfl
    cases filled
  · intro c inside
    simpa using mem_of_mem_splitWhere piece c inside

/-- The parameters of a length are numbers. -/
theorem IsLength.isDigits_of_mem {length run : Text} (isLength : IsLength length)
    (member : run ∈ numericParams length) : IsDigits run := by
  rcases mem_numericParams member with ⟨nonempty, chars⟩
  refine ⟨nonempty, ?_⟩
  intro c inside
  rcases isLength.mem (chars c inside).1 with digit | rfl
  · exact digit
  · exact absurd (chars _ inside).2 (by decide)

/-- Parameters that are joined again are the same parameters. -/
theorem numericParams_join (length : Text) :
    numericParams (join [','] (numericParams length)) = numericParams length := by
  cases runs : numericParams length with
  | nil => rfl
  | cons first rest =>
      have uncut : forall run, run ∈ first :: rest ->
          forall c, c ∈ run -> (!isParamChar c) = false := by
        intro run member c inside
        rw [← runs] at member
        simpa using ((mem_numericParams member).2 c inside).2
      have filled : forall run, run ∈ first :: rest -> (!run.isEmpty) = true := by
        intro run member
        rw [← runs] at member
        simpa using (mem_numericParams member).1
      rw [numericParams, splitWhere_join (by decide) uncut]
      exact List.filter_eq_self.mpr filled

theorem sizedType_nil (base : Text) : sizedType base [] = base := by
  simp [sizedType]

/-- A length is dropped, or kept in a form in which it is kept again. -/
theorem sizedType_of_isLength (base : Text) {given : Text} (isLength : IsLength given) :
    sizedType base given = base ∨ exists runs, runs ≠ [] ∧
      (forall run, run ∈ runs -> IsDigits run) ∧
      sizedType base given = withParams base (join [','] runs) ∧
      sizedType base (join [','] runs) = withParams base (join [','] runs) ∧
      (isPrecise base = true ∨ join [','] runs = given) := by
  have filled : given.isEmpty = false := List.isEmpty_eq_false_iff.mpr isLength.nonempty
  cases precise : isPrecise base with
  | true =>
      have kept : forall t : Text, t ≠ [] -> sizedType base t = match numericParams t with
          | [] => base
          | params => withParams base (join [','] params) := by
        intro t nonempty
        simp only [sizedType, precise, List.isEmpty_eq_false_iff.mpr nonempty, Bool.not_false,
          Bool.and_true, if_true]
      have again := numericParams_join given
      rw [kept given isLength.nonempty]
      cases params : numericParams given with
      | nil => exact Or.inl rfl
      | cons first rest =>
          rw [params] at again
          have digits : forall run, run ∈ first :: rest -> IsDigits run := fun run member =>
            isLength.isDigits_of_mem (params ▸ member)
          have nonempty : join [','] (first :: rest) ≠ [] := by
            intro empty
            rw [empty] at again
            cases again
          refine Or.inr ⟨first :: rest, by simp, digits, rfl, ?_, Or.inl rfl⟩
          rw [kept _ nonempty, again]
  | false =>
      cases enough : (lengthTypes .mysql).contains base && !given.isEmpty &&
          given.all isAnyDigit with
      | true =>
          have number := isLength.isDigits (Bool.and_eq_true_iff.mp enough).2
          have kept : sizedType base given = withParams base given := by
            simp only [sizedType, precise, Bool.false_and, Bool.false_eq_true, if_false, enough,
              if_true]
          refine Or.inr ⟨[given], by simp, ?_, ?_, ?_, Or.inr (join_singleton _ _)⟩
          · intro run member
            rw [List.mem_singleton.mp member]
            exact number
          · rw [join_singleton, kept]
          · rw [join_singleton, kept]
      | false =>
          refine Or.inl ?_
          simp only [sizedType, precise, Bool.false_and, Bool.false_eq_true, if_false, enough]

/-! Spellings that stand. -/

namespace Spelling

theorem stands_number {base number : Text} (own : Own base) (nonempty : number ≠ [])
    (digits : number.all isDecimalDigit = true)
    (again : columnType .mysql base (some number) none = withParams base number) :
    Stands (.sized base [number]) := by
  refine ⟨own.known, own.uncounted, ⟨own.noList, List.cons_ne_nil _ _, ?_⟩, ?_⟩
  · intro run member
    rw [List.mem_singleton.mp member]
    exact ⟨nonempty, List.all_eq_true.mp digits⟩
  · rw [length, text, join_singleton]
    exact again

/-- Truth values are written as numbers of one digit. -/
theorem stands_truth : Stands (.sized "TINYINT".toList ["1".toList]) :=
  stands_number (own_of_mem (by decide)) (by decide) (by decide) (by decide)

/-- Universal identifiers are written as texts of a fixed length. -/
theorem stands_identifier : Stands (.sized "CHAR".toList ["36".toList]) :=
  stands_number (own_of_mem (by decide)) (by decide) (by decide) (by decide)

theorem stands_listed {base : Text} {values : List Text} (known : base ∈ Token.typeNames)
    (isList : TypeText.isValueList base = true)
    (plain : forall value, value ∈ values -> '\\' ∉ value) : Stands (.listed base values) := by
  refine ⟨known, ?_, ⟨isList, plain⟩, columnType_of_list known isList (some values)⟩
  change base ∉ Table.serialTypes
  rcases Bool.or_eq_true_iff.mp isList with enum | set
  · rw [beq_iff_eq.mp enum]
    decide
  · rw [beq_iff_eq.mp set]
    decide

/-- A name outside the table is written with any length. -/
theorem exists_stands_of_unmapped {base : Text} (unmapped : base ∈ unmappedNames)
    {length : Option Text} (isLength : forall given, length = some given -> IsLength given) :
    exists w, Stands w ∧ w.values = none ∧
      w.text = if (length.getD []).isEmpty then base else withParams base (length.getD []) := by
  have own := own_of_mem (List.mem_append_right mappedNames unmapped)
  have facts : forall base, base ∈ unmappedNames -> base ≠ "TINYINT".toList ∧
      lookup? .mysql base = none := by
    decide
  rcases facts base unmapped with ⟨noTiny, absent⟩
  have noTruth : forall given, TypeText.isBoolean base given = false := by
    intro given
    rw [isBoolean_of_own own, beq_eq_false_iff_ne.mpr noTiny]
    rfl
  have written (given : Option Text) :=
    columnType_of_unmapped own.known (noTruth given) own.noList none absent
  cases length with
  | none => exact ⟨.bare base, ⟨own.known, own.uncounted, own.noList, written none⟩, rfl, rfl⟩
  | some given =>
      rcases (isLength given rfl).exists_runs with ⟨runs, nonempty, digits, rfl⟩
      have filled : (join [','] runs).isEmpty = false :=
        List.isEmpty_eq_false_iff.mpr (isLength _ rfl).nonempty
      refine ⟨.sized base runs, ⟨own.known, own.uncounted, ⟨own.noList, nonempty, digits⟩, ?_⟩,
        rfl, ?_⟩
      · refine (written (some (join [','] runs))).trans ?_
        simp only [Option.getD_some, filled, Bool.false_eq_true, if_false]
        rfl
      · simp only [Option.getD_some, filled, Bool.false_eq_true, if_false]
        rfl

/-- A name of the table writes again what it writes. -/
theorem exists_stands_of_mapped {base : Text} (mapped : base ∈ mappedNames) {length : Option Text}
    (isLength : forall given, length = some given -> IsLength given)
    (noTruth : TypeText.isBoolean base length = false) :
    exists w, Stands w ∧ w.values = none ∧ w.text = sizedType base (length.getD []) := by
  have own := own_of_mem (List.mem_append_left unmappedNames mapped)
  rcases lookup?_of_mapped base mapped with ⟨found, noParens⟩
  have written : forall given, TypeText.isBoolean base given = false ->
      columnType .mysql base given none = sizedType base (given.getD []) := by
    intro given noTruth
    rw [columnType_of_lookup own.known noTruth own.noList none found, noParens]
    rfl
  have alone : Stands (.bare base) := by
    refine ⟨own.known, own.uncounted, own.noList, ?_⟩
    have noLength : TypeText.isBoolean base none = false := by
      rw [isBoolean_of_own own]
      exact Bool.and_false _
    exact (written none noLength).trans (sizedType_nil base)
  cases length with
  | none => exact ⟨.bare base, alone, rfl, (sizedType_nil base).symm⟩
  | some given =>
      rcases sizedType_of_isLength base (isLength given rfl) with
        dropped | ⟨runs, nonempty, digits, kept, again, same⟩
      · exact ⟨.bare base, alone, rfl, dropped.symm⟩
      · have stillNoTruth : TypeText.isBoolean base (some (join [','] runs)) = false := by
          rcases same with precise | rfl
          · have noTiny : base ≠ "TINYINT".toList := by rintro rfl; exact absurd precise (by decide)
            rw [isBoolean_of_own own, beq_eq_false_iff_ne.mpr noTiny]
            rfl
          · exact noTruth
        refine ⟨.sized base runs, ⟨own.known, own.uncounted, ⟨own.noList, nonempty, digits⟩, ?_⟩,
          rfl, kept.symm⟩
        exact (written (some (join [','] runs)) stillNoTruth).trans again

end Spelling

/-- Every type of a column is written in a spelling that stands, and a list of
values keeps its values. -/
theorem exists_spelling {c : Column} (known : c.baseType ∈ Token.typeNames)
    (isLength : forall given, c.length = some given -> IsLength given)
    (unsized : TypeText.isValueList c.baseType = true -> c.length = none)
    (plain : TypeText.isValueList c.baseType = true ->
      forall values, c.enumValues = some values -> forall value, value ∈ values -> '\\' ∉ value) :
    exists w : Spelling, w.Stands ∧ typeOf .mysql c = w.text ∧
      (TypeText.isValueList c.baseType = true ->
        forall values, c.enumValues = some values -> w.values = some values) := by
  rcases ofText_of_known c.baseType known with ⟨_, upper, _⟩
  have type : typeOf .mysql c = columnType .mysql c.baseType c.length
      (if TypeText.isValueList c.baseType then c.enumValues else none) := by
    simp only [typeOf, upper]
    rfl
  rw [type]
  cases isList : TypeText.isValueList c.baseType with
  | true =>
      rw [unsized isList, if_pos rfl, columnType_of_list known isList]
      refine ⟨.listed c.baseType (c.enumValues.getD []), Spelling.stands_listed known isList ?_,
        rfl, ?_⟩
      · intro value member
        cases given : c.enumValues with
        | none => simp [given] at member
        | some values => exact plain isList values given value (by simpa [given] using member)
      · intro _ values given
        rw [given]
        rfl
  | false =>
      have vacuous : forall {P : Prop}, false = true -> P := fun absurd => nomatch absurd
      cases noTruth : TypeText.isBoolean c.baseType c.length with
      | true =>
          exact ⟨_, Spelling.stands_truth, columnType_of_truth known noTruth _, vacuous⟩
      | false =>
          rcases lookup?_of_known c.baseType known isList with
            ⟨absent, truth | unmapped⟩ | tiny | char | mapped
          · rw [truth, isBoolean_bool] at noTruth
            cases noTruth
          · rw [columnType_of_unmapped known noTruth isList _ absent]
            rcases Spelling.exists_stands_of_unmapped unmapped isLength with ⟨w, stands, _, text⟩
            exact ⟨w, stands, text.symm, vacuous⟩
          · rw [columnType_of_lookup known noTruth isList _ tiny, if_pos (by decide)]
            exact ⟨_, Spelling.stands_truth, rfl, vacuous⟩
          · rw [columnType_of_lookup known noTruth isList _ char, if_pos (by decide)]
            exact ⟨_, Spelling.stands_identifier, rfl, vacuous⟩
          · rcases mapped with ⟨name, listed, found, tinyOnly⟩
            have noParens := (lookup?_of_mapped name listed).2
            have stillNoTruth : TypeText.isBoolean name c.length = false := by
              by_cases tiny : name = "TINYINT".toList
              · rw [tiny, ← tinyOnly tiny]
                exact noTruth
              · rw [isBoolean_of_own (own_of_mem (List.mem_append_left _ listed)),
                  beq_eq_false_iff_ne.mpr tiny]
                rfl
            rw [columnType_of_lookup known noTruth isList _ found, noParens]
            rcases Spelling.exists_stands_of_mapped listed isLength stillNoTruth with
              ⟨w, stands, _, text⟩
            exact ⟨w, stands, text.symm, vacuous⟩

end Dialect
end SchemaAtlas
