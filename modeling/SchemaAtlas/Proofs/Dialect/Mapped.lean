import SchemaAtlas.Dialect.ColumnType
import SchemaAtlas.Proofs.Dialect.TypeText

namespace SchemaAtlas
namespace Dialect

/-!
The four ways in which a type is mapped.

A type of truth values becomes the one type that the dialect has for them; a list of values stays a
list or becomes a text that holds the longest value; a name that the table does not have stays as it
is written; and any other name is replaced by the type of the first beginning that fits, with a size
where the dialect writes one.
-/

open Text

variable {d : Dialect} {t : Text} {length : Option Text}

def sized (d : Dialect) (mapped given : Text) : Text :=
  if mapped.contains '(' then mapped
  else if isPrecise mapped && !given.isEmpty then
    match numericParams given with
    | [] => mapped
    | params => withParams mapped (join [','] params)
  else if d.lengthTypes.contains mapped && !given.isEmpty &&
    given.all isAnyDigit then withParams mapped given
  else mapped

def listText (d : Dialect) (base : Text) (values : List Text) : Text :=
  match d.listType? with
  | none => withParams base (literalList values)
  | some text => withParams text (Text.ofNat (longest values + 2))

theorem isBoolean_of_isValueList {base : Text} (isList : TypeText.isValueList base = true)
    (length : Option Text) : TypeText.isBoolean base length = false := by
  rcases Bool.or_eq_true_iff.mp isList with enum | set
  · rw [beq_iff_eq.mp enum]
    rfl
  · rw [beq_iff_eq.mp set]
    rfl

theorem columnType_truth
    (truth : TypeText.isBoolean (upper (TypeText.ofText t).base)
      (length.or (TypeText.ofText t).params) = true)
    (values : Option (List Text)) : columnType d t length values = d.booleanType := by
  simp only [columnType, truth, if_true]

section Untrue

variable (noTruth : TypeText.isBoolean (upper (TypeText.ofText t).base)
  (length.or (TypeText.ofText t).params) = false)

include noTruth

theorem columnType_listed (isList : TypeText.isValueList (upper (TypeText.ofText t).base) = true)
    (values : Option (List Text)) :
    columnType d t length values = listText d (upper (TypeText.ofText t).base)
      (values.getD (listedValues ((length.or (TypeText.ofText t).params).getD []))) := by
  simp only [columnType, noTruth, isList, if_true, Bool.false_eq_true, if_false]
  rfl

theorem columnType_absent (noList : TypeText.isValueList (upper (TypeText.ofText t).base) = false)
    (absent : lookup? d (TypeText.ofText t).base = none) (values : Option (List Text)) :
    columnType d t length values =
      if !((length.or (TypeText.ofText t).params).getD []).isEmpty &&
        (TypeText.ofText t).params.isNone then
        withParams (TypeText.ofText t).base ((length.or (TypeText.ofText t).params).getD [])
      else trim t := by
  simp only [columnType, noTruth, noList, absent, Bool.false_eq_true, if_false]

theorem columnType_found (noList : TypeText.isValueList (upper (TypeText.ofText t).base) = false)
    {mapped : Text} (found : lookup? d (TypeText.ofText t).base = some mapped)
    (values : Option (List Text)) :
    columnType d t length values =
      sized d mapped ((length.or (TypeText.ofText t).params).getD []) := by
  simp only [columnType, noTruth, noList, found, Bool.false_eq_true, if_false]
  rfl

end Untrue

/-! The table. -/

/-- The text by which the table is searched. -/
def key (t : Text) : Text :=
  lower (TypeText.ofText t).base

theorem exists_entry_of_lookup? {mapped : Text}
    (found : lookup? d (TypeText.ofText t).base = some mapped) :
    exists entry, entry ∈ d.types ∧ startsWith (key t) entry.1 = true ∧ entry.2 = mapped := by
  rw [lookup?, TypeText.ofText_base] at found
  rcases Option.map_eq_some_iff.mp found with ⟨entry, first, rfl⟩
  have fits := List.find?_some first
  exact ⟨entry, List.mem_of_find?_eq_some first, fits, rfl⟩

/-- Every beginning that may stand above the given one leads to the same type. -/
def Unrivalled (d : Dialect) (entry : Text × Text) : Prop :=
  entry ∈ d.types ∧ forall other, other ∈ d.types ->
    (startsWith entry.1 other.1 = true ∨ startsWith other.1 entry.1 = true) -> other.2 = entry.2

instance (d : Dialect) (entry : Text × Text) : Decidable (Unrivalled d entry) :=
  inferInstanceAs (Decidable (_ ∧ _))

/-- Of two beginnings of one text, one begins the other. -/
theorem startsWith_or_startsWith {t first second : Text} (beginsFirst : startsWith t first = true)
    (beginsSecond : startsWith t second = true) :
    startsWith first second = true ∨ startsWith second first = true := by
  simp only [startsWith, List.isPrefixOf_iff_prefix] at *
  exact (List.prefix_or_prefix_of_prefix beginsFirst beginsSecond).symm

theorem lookup?_of_unrivalled {entry : Text × Text} (unrivalled : Unrivalled d entry)
    (begins : startsWith (key t) entry.1 = true) :
    lookup? d (TypeText.ofText t).base = some entry.2 := by
  rw [lookup?, TypeText.ofText_base]
  change ((d.types.find? fun entry => startsWith (key t) entry.1).map Prod.snd) = some entry.2
  cases first : d.types.find? fun entry => startsWith (key t) entry.1 with
  | none => exact absurd begins (by simpa using List.find?_eq_none.mp first entry unrivalled.1)
  | some other =>
      have fits := List.find?_some first
      have same := unrivalled.2 other (List.mem_of_find?_eq_some first)
        (startsWith_or_startsWith begins fits)
      rw [Option.map_some, same]

end Dialect
end SchemaAtlas
