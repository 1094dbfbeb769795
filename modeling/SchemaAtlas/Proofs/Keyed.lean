import SchemaAtlas.Keyed

namespace SchemaAtlas
namespace Keyed

/-!
Laws of entries under names.

Setting a name changes what is found under that name and under no other, and it never repeats a
name.  A list of pairs without a repeated name is its own list of entries, so the rule for repeated
names plays no part there.
-/

variable {α : Type}

theorem get?_cons (key k : Text) (v : α) (rest : Keyed α) :
    get? key ((k, v) :: rest) = if k = key then some v else get? key rest := by
  by_cases same : k = key
  · simp [get?, same]
  · simp [get?, same]

/-- Setting a name is seen under that name only. -/
theorem get?_set (key other : Text) (value : α) (entries : Keyed α) :
    get? other (set key value entries) = if key = other then some value
      else get? other entries := by
  induction entries with
  | nil => simp [set, get?]
  | cons entry rest ih =>
      rcases entry with ⟨k, v⟩
      by_cases here : k = key
      · subst here
        simp only [set, beq_self_eq_true, if_true, get?_cons]
        by_cases same : k = other
        · simp only [if_pos same]
        · simp only [if_neg same]
      · simp only [set, beq_iff_eq, if_neg here, get?_cons, ih]
        by_cases same : k = other
        · have different : ¬ key = other := fun equal => here (same.trans equal.symm)
          simp only [if_pos same, if_neg different]
        · simp only [if_neg same]

/-- The names after setting one: the same names, with the new one last where it was not there. -/
theorem names_set (key : Text) (value : α) (entries : Keyed α) :
    names (set key value entries) =
      if key ∈ names entries then names entries else names entries ++ [key] := by
  induction entries with
  | nil => simp [set, names]
  | cons entry rest ih =>
      rcases entry with ⟨k, v⟩
      by_cases here : k = key
      · subst here
        simp [set, names]
      · have flipped : ¬ key = k := fun equal => here equal.symm
        have unfolded : names (set key value ((k, v) :: rest)) =
            k :: names (set key value rest) := by
          simp only [set, beq_iff_eq, if_neg here, names, List.map_cons]
        have whole : names ((k, v) :: rest) = k :: names rest := rfl
        rw [unfolded, ih, whole]
        by_cases later : key ∈ names rest
        · simp only [List.mem_cons, later, or_true, if_true]
        · simp only [List.mem_cons, flipped, later, or_false, if_false, List.cons_append]

theorem nodup_names_set (key : Text) (value : α) {entries : Keyed α}
    (distinct : (names entries).Nodup) : (names (set key value entries)).Nodup := by
  rw [names_set]
  by_cases present : key ∈ names entries
  · simpa only [if_pos present] using distinct
  · rw [if_neg present]
    refine List.nodup_append.mpr ⟨distinct, by simp, ?_⟩
    intro first member second isKey equal
    exact present (List.mem_singleton.mp isKey ▸ equal ▸ member)

theorem set_of_not_mem (key : Text) (value : α) {entries : Keyed α} (absent : key ∉ names entries) :
    set key value entries = entries ++ [(key, value)] := by
  induction entries with
  | nil => rfl
  | cons entry rest ih =>
      rcases entry with ⟨k, v⟩
      have parts : ¬ key = k ∧ key ∉ names rest := by
        simpa only [names, List.map_cons, List.mem_cons, not_or] using absent
      have different : ¬ k = key := fun equal => parts.1 equal.symm
      simp only [set, beq_iff_eq, if_neg different, ih parts.2, List.cons_append]

/-- Pairs whose names differ, from each other and from those already there, are simply added. -/
theorem update_of_nodup (entries others : Keyed α)
    (distinct : (names entries ++ names others).Nodup) :
    update entries others = entries ++ others := by
  induction others generalizing entries with
  | nil => simp [update]
  | cons entry rest ih =>
      rcases entry with ⟨k, v⟩
      have moved : (names (entries ++ [(k, v)]) ++ names rest).Nodup := by
        simpa only [names, List.map_append, List.map_cons, List.map_nil, List.append_assoc,
          List.singleton_append] using distinct
      have absent : k ∉ names entries := by
        intro member
        exact (List.nodup_append.mp distinct).2.2 k member k (by simp [names]) rfl
      have step : update entries ((k, v) :: rest) = update (set k v entries) rest := rfl
      rw [step, set_of_not_mem k v absent, ih _ moved, List.append_assoc, List.singleton_append]

theorem ofPairs_of_nodup (pairs : Keyed α) (distinct : (names pairs).Nodup) :
    ofPairs pairs = pairs := by
  unfold ofPairs
  rw [update_of_nodup [] pairs (by simpa [names] using distinct), List.nil_append]

/-- Where entries are set over others, the last one under a name counts. -/
theorem get?_update (key : Text) (entries others : Keyed α) :
    get? key (update entries others) =
      ((others.filter fun entry => entry.1 == key).getLast?.map Prod.snd).or
        (get? key entries) := by
  induction others generalizing entries with
  | nil => rfl
  | cons entry rest ih =>
      have step : update entries (entry :: rest) = update (set entry.1 entry.2 entries) rest := rfl
      rw [step, ih, get?_set]
      by_cases same : entry.1 = key
      · rw [List.filter_cons_of_pos (by simp [same]), List.getLast?_cons, if_pos same]
        cases (rest.filter fun entry => entry.1 == key).getLast? with
        | none => rfl
        | some last => rfl
      · rw [List.filter_cons_of_neg (by simp [same]), if_neg same]

theorem get?_of_mem {entries : Keyed α} (distinct : (names entries).Nodup) {key : Text} {value : α}
    (member : (key, value) ∈ entries) : get? key entries = some value := by
  induction entries with
  | nil => cases member
  | cons entry rest ih =>
      rcases entry with ⟨k, v⟩
      have parts : k ∉ names rest ∧ (names rest).Nodup := List.nodup_cons.mp distinct
      rw [get?_cons]
      rcases List.mem_cons.mp member with here | later
      · rcases Prod.mk.inj here with ⟨rfl, rfl⟩
        rw [if_pos rfl]
      · have other : ¬ k = key := by
          rintro rfl
          exact parts.1 (List.mem_map_of_mem later)
        rw [if_neg other]
        exact ih parts.2 later

theorem mem_of_get? {key : Text} {value : α} {entries : Keyed α}
    (found : get? key entries = some value) : (key, value) ∈ entries := by
  induction entries with
  | nil => cases found
  | cons entry rest ih =>
      rcases entry with ⟨k, v⟩
      rw [get?_cons] at found
      by_cases same : k = key
      · rw [if_pos same] at found
        rw [same, Option.some.inj found]
        exact List.mem_cons_self
      · rw [if_neg same] at found
        exact List.mem_cons_of_mem _ (ih found)

theorem get?_eq_none_iff {key : Text} {entries : Keyed α} :
    get? key entries = none ↔ key ∉ names entries := by
  induction entries with
  | nil => simp [get?, names]
  | cons entry rest ih =>
      rcases entry with ⟨k, v⟩
      have whole : names ((k, v) :: rest) = k :: names rest := rfl
      rw [get?_cons, whole, List.mem_cons, not_or, ← ih, eq_comm (a := key)]
      by_cases same : k = key
      · simp [same]
      · simp [same]

/-- Entries are known by their names, in order, and by what is found under each. -/
theorem eq_of_names_of_get? {first second : Keyed α} (distinct : (names first).Nodup)
    (sameNames : names first = names second)
    (sameValues : forall key, get? key first = get? key second) : first = second := by
  induction first generalizing second with
  | nil =>
      cases second with
      | nil => rfl
      | cons entry rest => cases sameNames
  | cons entry rest ih =>
      rcases entry with ⟨k, v⟩
      cases second with
      | nil => cases sameNames
      | cons other others =>
          rcases other with ⟨l, w⟩
          obtain ⟨rfl, sameRest⟩ : k = l ∧ names rest = names others := List.cons.inj sameNames
          obtain ⟨absent, distinctRest⟩ := List.nodup_cons.mp distinct
          have sameFirst : v = w := by
            have here := sameValues k
            rw [get?_cons, get?_cons, if_pos rfl, if_pos rfl] at here
            exact Option.some.inj here
          have behind : forall key, get? key rest = get? key others := by
            intro key
            by_cases same : k = key
            · subst same
              rw [get?_eq_none_iff.mpr absent, get?_eq_none_iff.mpr (sameRest ▸ absent)]
            · have there := sameValues key
              rwa [get?_cons, get?_cons, if_neg same, if_neg same] at there
          rw [sameFirst, ih distinctRest sameRest behind]

/-- The last place of a name, at or behind a place of it. -/
theorem exists_last {names : List Text} {name : Text} {k : Nat} (there : names[k]? = some name) :
    exists l, k ≤ l ∧ names[l]? = some name ∧ name ∉ names.drop (l + 1) := by
  induction names generalizing k with
  | nil => simp at there
  | cons first rest ih =>
      by_cases later : name ∈ rest
      · have next : exists l, k ≤ l + 1 ∧ rest[l]? = some name ∧ name ∉ rest.drop (l + 1) := by
          cases k with
          | zero =>
              rcases List.mem_iff_getElem?.mp later with ⟨l, found⟩
              rcases ih found with ⟨l, _, last⟩
              exact ⟨l, Nat.zero_le _, last⟩
          | succ k =>
              rcases ih there with ⟨l, behind, last⟩
              exact ⟨l, Nat.succ_le_succ behind, last⟩
        rcases next with ⟨l, behind, found, last⟩
        exact ⟨l + 1, behind, found, last⟩
      · cases k with
        | zero => exact ⟨0, Nat.le_refl _, there, later⟩
        | succ k =>
            have behind : rest[k]? = some name := there
            exact absurd (List.mem_of_getElem? behind) later

/-- The first place of a name, at or before a place of it. -/
theorem exists_first {names : List Text} {name : Text} {k : Nat} (there : names[k]? = some name) :
    exists i, i ≤ k ∧ names[i]? = some name ∧ name ∉ names.take i := by
  induction names generalizing k with
  | nil => simp at there
  | cons first rest ih =>
      by_cases here : first = name
      · exact ⟨0, Nat.zero_le _, congrArg some here, List.not_mem_nil⟩
      · cases k with
        | zero => exact absurd (Option.some.inj there) here
        | succ k =>
            rcases ih there with ⟨i, before, found, isFirst⟩
            refine ⟨i + 1, Nat.succ_le_succ before, found, ?_⟩
            rw [List.take_succ_cons, List.mem_cons]
            rintro (same | earlier)
            · exact here same.symm
            · exact isFirst earlier

/-- Of the values beside names, those beside one name end with the one at its last place. -/
theorem getLast?_filter_zip {names : List Text} {values : List α} {l : Nat} {name : Text}
    (there : names[l]? = some name) (last : name ∉ names.drop (l + 1))
    (enough : values.length = names.length) :
    ((names.zip values).filter fun entry => entry.1 == name).getLast?.map Prod.snd =
      values[l]? := by
  induction names generalizing values l with
  | nil => simp at there
  | cons first rest ih =>
      cases values with
      | nil => cases enough
      | cons value others =>
          cases l with
          | zero =>
              have isFirst : first = name := Option.some.inj there
              have noOther : (rest.zip others).filter (fun entry => entry.1 == name) = [] := by
                apply List.filter_eq_nil_iff.mpr
                intro entry member same
                exact last (beq_iff_eq.mp same ▸ (List.of_mem_zip member).1)
              rw [List.zip_cons_cons, List.filter_cons_of_pos (by simp [isFirst]), noOther]
              rfl
          | succ l =>
              have behind : rest[l]? = some name := there
              have later := ih behind last (Nat.succ.inj enough)
              have inside : l < others.length :=
                Nat.succ.inj enough ▸ (List.getElem?_eq_some_iff.mp behind).1
              rw [List.getElem?_eq_getElem inside] at later
              rw [List.zip_cons_cons, List.getElem?_cons_succ, List.getElem?_eq_getElem inside,
                List.filter_cons]
              rcases Option.map_eq_some_iff.mp later with ⟨entry, isLast, value⟩
              split
              · rw [List.getLast?_cons, isLast]
                exact congrArg some value
              · rw [isLast]
                exact congrArg some value

/-- Of values beside names, the one at the last place of a name counts. -/
theorem get?_ofPairs_zip {names : List Text} {values : List α} {l : Nat} {name : Text}
    (there : names[l]? = some name) (last : name ∉ names.drop (l + 1))
    (enough : values.length = names.length) :
    get? name (ofPairs (names.zip values)) = values[l]? := by
  have inside : l < values.length := enough ▸ (List.getElem?_eq_some_iff.mp there).1
  rw [ofPairs, get?_update, getLast?_filter_zip there last enough, List.getElem?_eq_getElem inside]
  rfl

end Keyed
end SchemaAtlas
