import SchemaAtlas.Proofs.Reference.Rearranged
import SchemaAtlas.Reference.Settings

namespace SchemaAtlas

/-!
Which references are found.

A column refers to a table when its name ends in the suffix and what stands before the suffix has
the key of the table, or a singular form of that key where plurals count.  A foreign key refers to
the tables of the key that it names.  Tables may share a key, and the key of one may be a singular
form of that of another; still each table that fits is found, no other is, and none is found twice.
-/

namespace Name

/-- A singular form of a plural name: `ies` becomes `y`, or `es` or `s` is left out, and
something is left of the name in front of the ending. -/
def IsSingular (singular plural : Text) : Prop :=
  (exists stem, stem ≠ [] ∧ plural = stem ++ "ies".toList ∧ singular = stem ++ "y".toList) ∨
    (singular ≠ [] ∧ plural = singular ++ "es".toList) ∨
      (singular ≠ [] ∧ plural = singular ++ "s".toList)

theorem mem_replaceEnding_iff {ending replacement name form : Text} :
    form ∈ replaceEnding ending replacement name ↔
      exists stem, stem ≠ [] ∧ name = stem ++ ending ∧ form = stem ++ replacement := by
  have stemOf : forall stem : Text,
      (stem ++ ending).take ((stem ++ ending).length - ending.length) = stem := by
    intro stem
    rw [List.length_append, Nat.add_sub_cancel, List.take_left]
  have longer : forall stem : Text, ending.length < (stem ++ ending).length ↔ stem ≠ [] := by
    intro stem
    rw [List.length_append, ← List.length_pos_iff]
    omega
  unfold replaceEnding
  constructor
  · intro member
    split at member
    · rename_i ends
      rw [Bool.and_eq_true, Text.endsWith, List.isSuffixOf_iff_suffix, decide_eq_true_eq] at ends
      rcases ends with ⟨⟨stem, rfl⟩, long⟩
      rw [stemOf, List.mem_singleton] at member
      exact ⟨stem, (longer stem).mp long, rfl, member⟩
    · cases member
  · rintro ⟨stem, nonempty, rfl, rfl⟩
    have ends : (Text.endsWith (stem ++ ending) ending &&
        decide (ending.length < (stem ++ ending).length)) = true := by
      rw [Bool.and_eq_true, Text.endsWith, List.isSuffixOf_iff_suffix, decide_eq_true_eq]
      exact ⟨⟨stem, rfl⟩, (longer stem).mpr nonempty⟩
    rw [if_pos ends, stemOf]
    exact List.mem_singleton_self _

theorem mem_singularForms_iff {singular plural : Text} :
    singular ∈ singularForms plural ↔ IsSingular singular plural := by
  have dropped : forall ending : Text, singular ∈ replaceEnding ending [] plural ↔
      singular ≠ [] ∧ plural = singular ++ ending := by
    intro ending
    rw [mem_replaceEnding_iff]
    constructor
    · rintro ⟨stem, nonempty, split, same⟩
      rw [List.append_nil] at same
      rw [same]
      exact ⟨nonempty, split⟩
    · rintro ⟨nonempty, split⟩
      exact ⟨singular, nonempty, split, (List.append_nil _).symm⟩
  rw [singularForms, List.mem_append, List.mem_append, dropped, dropped,
    mem_replaceEnding_iff, or_assoc]
  rfl

end Name

namespace Depth

theorem columnKey?_eq_some_iff {ending name key : Text} (nonempty : ending ≠ []) :
    Matcher.columnKey? ending name = some key ↔
      ending <:+ Text.lower name ∧
        key = Name.referenceKey (name.take (name.length - ending.length)) ∧ key ≠ [] := by
  have filled : (!ending.isEmpty) = true := by simpa using nonempty
  unfold Matcher.columnKey?
  rw [filled, Bool.and_true, Text.endsWith]
  by_cases ends : ending.isSuffixOf (Text.lower name) = true
  · rw [if_pos ends]
    have suffix := List.isSuffixOf_iff_suffix.mp ends
    cases stripped : Name.referenceKey (name.take (name.length - ending.length)) with
    | nil =>
        refine iff_of_false nofun ?_
        rintro ⟨_, same, differs⟩
        exact differs same
    | cons c rest =>
        constructor
        · intro found
          have same : c :: rest = key := Option.some.inj found
          exact ⟨suffix, same.symm, same ▸ List.cons_ne_nil c rest⟩
        · rintro ⟨_, same, _⟩
          rw [same]
  · rw [if_neg ends]
    refine iff_of_false nofun ?_
    rintro ⟨suffix, _⟩
    exact ends (List.isSuffixOf_iff_suffix.mpr suffix)

/-- A column of the table whose name is the key of the other table, or a singular form
of it, in front of `_id`. -/
def PointsBySuffix (plurals : Bool) (e target : Entity) : Prop :=
  exists column key, column ∈ e.columns ∧ "_id".toList <:+ Text.lower column.name ∧
    key = Name.referenceKey (column.name.take (column.name.length - 3)) ∧ key ≠ [] ∧
    (key = Name.referenceKey target.name ∨ plurals = true ∧
      Name.IsSingular key (Name.referenceKey target.name))

/-- A foreign key of the table that names the other table. -/
def PointsByForeignKey (e target : Entity) : Prop :=
  exists key, key ∈ e.foreignKeys ∧ Name.referenceKey key.refTable = Name.referenceKey target.name

theorem pointsTo_suffix_iff {plurals : Bool} {e target : Entity} :
    PointsTo (.suffix "_id".toList plurals) e target ↔ PointsBySuffix plurals e target := by
  have lowered : Text.lower "_id".toList = "_id".toList := by decide
  have referred : forall key, key ∈ Matcher.referredKeys (.suffix "_id".toList plurals) e ↔
      exists column, column ∈ e.columns ∧ "_id".toList <:+ Text.lower column.name ∧
        key = Name.referenceKey (column.name.take (column.name.length - 3)) ∧ key ≠ [] := by
    intro key
    rw [Matcher.referredKeys, List.mem_filterMap, lowered]
    exact exists_congr fun column => and_congr_right fun _ => columnKey?_eq_some_iff (by decide)
  unfold PointsTo PointsBySuffix
  constructor
  · rintro ⟨key, member, fits⟩
    rcases (referred key).mp member with ⟨column, listed, suffix, same, nonempty⟩
    rw [Name.mem_singularForms_iff] at fits
    exact ⟨column, key, listed, suffix, same, nonempty, fits⟩
  · rintro ⟨column, key, listed, suffix, same, nonempty, fits⟩
    rw [← Name.mem_singularForms_iff] at fits
    exact ⟨key, (referred key).mpr ⟨column, listed, suffix, same, nonempty⟩, fits⟩

theorem pointsTo_foreignKey_iff {e target : Entity} :
    PointsTo .foreignKey e target ↔ PointsByForeignKey e target := by
  unfold PointsTo PointsByForeignKey
  constructor
  · rintro ⟨key, member, same | ⟨impossible, _⟩⟩
    · rcases List.mem_map.mp member with ⟨foreign, listed, rfl⟩
      exact ⟨foreign, listed, same⟩
    · cases impossible
  · rintro ⟨foreign, listed, same⟩
    exact ⟨_, List.mem_map.mpr ⟨foreign, listed, rfl⟩, Or.inl same⟩

theorem nodup_collect {self : Nat} {found : List Nat} (distinct : found.Nodup)
    (positions : List Nat) : (Matcher.collect self found positions).Nodup := by
  induction positions generalizing found with
  | nil => exact distinct
  | cons p rest ih =>
      rw [Matcher.collect]
      apply ih
      by_cases passed : (p == self || found.contains p) = true
      · rw [if_pos passed]
        exact distinct
      · rw [if_neg passed]
        have fresh : p ∉ found := by
          intro member
          exact passed (Bool.or_eq_true_iff.mpr (Or.inr (List.contains_iff_mem.mpr member)))
        rw [List.nodup_append]
        refine ⟨distinct, List.nodup_singleton p, ?_⟩
        intro q member other isP same
        rw [List.mem_singleton.mp isP] at same
        exact fresh (same ▸ member)

theorem nodup_adjacency (m : Matcher) (entities : List Entity) (i : Nat) :
    ((m.adjacency entities).getD i []).Nodup := by
  rw [List.getD_eq_getElem?_getD, Matcher.adjacency, List.getElem?_map]
  cases entities.zipIdx[i]? with
  | none => exact List.nodup_nil
  | some entry => exact nodup_collect List.nodup_nil _

/-- References are found exactly.  By the suffix `_id`, a table refers to another one where one
of its columns points there; by foreign keys, where one of these does.  No table refers to
itself, and no position is listed twice. -/
theorem refers_iff_points (entities : List Entity) :
    (forall plurals i j, Refers (Matcher.adjacency (.suffix "_id".toList plurals) entities) i j ↔
      i ≠ j ∧ exists e target, entities[i]? = some e ∧ entities[j]? = some target ∧
      PointsBySuffix plurals e target) ∧
      (forall i j, Refers (Matcher.adjacency .foreignKey entities) i j ↔
        i ≠ j ∧ exists e target, entities[i]? = some e ∧ entities[j]? = some target ∧
          PointsByForeignKey e target) ∧
      forall (m : Matcher) i, ((m.adjacency entities).getD i []).Nodup := by
  refine ⟨?_, ?_, fun m i => nodup_adjacency m entities i⟩
  · intro plurals i j
    simp only [refers_adjacency_iff, pointsTo_suffix_iff]
  · intro i j
    simp only [refers_adjacency_iff, pointsTo_foreignKey_iff]

-- Without settings, references are sought by this suffix and by singular forms.
example : (NamedMatcher.suffix []).matcher = .suffix "_id".toList true := by
  decide

end Depth
end SchemaAtlas
