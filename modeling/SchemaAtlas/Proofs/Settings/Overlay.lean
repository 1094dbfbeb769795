import SchemaAtlas.Proofs.Keyed
import SchemaAtlas.Settings.Build

namespace SchemaAtlas

/-!
Values laid over others.

A path of names leads from mapping to mapping.  What a path leads to in a value that was laid over
another one is told by what it leads to in the two: where the upper value has something, this is
laid over what the lower one has there, and where the upper one has nothing, the lower one is left
as it is.  From this, by the paths or by the mappings inside each other, laying a value over what it
was laid over before changes nothing.

All this needs that no mapping names two entries alike, for otherwise the second one would be laid
over the first.
-/

namespace Value

/-- The value that a path of names leads to, from mapping to mapping. -/
def at? : List Text -> Value -> Option Value
  | [], v => some v
  | key :: path, v => (v.get? key).bind (at? path)

mutual

/-- No mapping that a path leads to names two entries alike. -/
def namesOnce : Value -> Bool
  | .mapping entries => decide (Keyed.names entries).Nodup && entriesNameOnce entries
  | _ => true

/-- The values of entries name nothing twice. -/
def entriesNameOnce : List (Text × Value) -> Bool
  | [] => true
  | (_, v) :: rest => namesOnce v && entriesNameOnce rest

end

theorem namesOnce_of_mem {entries : Keyed Value} (once : entriesNameOnce entries = true)
    {key : Text} {v : Value} (member : (key, v) ∈ entries) : v.namesOnce = true := by
  induction entries with
  | nil => cases member
  | cons entry rest ih =>
      rcases entry with ⟨k, w⟩
      rw [entriesNameOnce, Bool.and_eq_true] at once
      rcases List.mem_cons.mp member with here | later
      · rw [(Prod.mk.inj here).2]
        exact once.1
      · exact ih once.2 later

theorem nodup_of_namesOnce {entries : Keyed Value} (once : (mapping entries).namesOnce = true) :
    (Keyed.names entries).Nodup := by
  rw [namesOnce, Bool.and_eq_true] at once
  exact of_decide_eq_true once.1

theorem namesOnce_of_get? {v w : Value} (once : v.namesOnce = true) {key : Text}
    (found : v.get? key = some w) : w.namesOnce = true := by
  cases v with
  | mapping entries =>
      rw [namesOnce, Bool.and_eq_true] at once
      exact namesOnce_of_mem once.2 (Keyed.mem_of_get? found)
  | _ => cases found

/-- What holds of a mapping as soon as it holds of all that is found in it, and of everything
else, holds of every value. -/
theorem induction_on_entries {motive : Value -> Prop}
    (leaf : forall v, v.isMapping = false -> motive v)
    (mapping : forall entries, (forall key v, Keyed.get? key entries = some v -> motive v) ->
      motive (.mapping entries))
    (v : Value) : motive v := by
  match v with
  | .mapping entries =>
      refine mapping entries fun key v found => ?_
      have smaller : sizeOf v < 1 + sizeOf entries := by
        have member := List.sizeOf_lt_of_mem (Keyed.mem_of_get? found)
        rw [Prod.mk.sizeOf_spec] at member
        omega
      exact induction_on_entries leaf mapping v
  | .null => exact leaf _ rfl
  | .bool b => exact leaf _ rfl
  | .int n => exact leaf _ rfl
  | .real x => exact leaf _ rfl
  | .text t => exact leaf _ rfl
  | .list items => exact leaf _ rfl
termination_by sizeOf v

theorem exists_of_isMapping {v : Value} (isMapping : v.isMapping = true) :
    exists entries, v = .mapping entries := by
  cases v with
  | mapping entries => exact ⟨entries, rfl⟩
  | _ => cases isMapping

theorem isMapping_of_get? {v w : Value} {key : Text} (found : v.get? key = some w) :
    v.isMapping = true := by
  cases v with
  | mapping entries => rfl
  | _ => cases found

theorem get?_of_leaf {v : Value} (leaf : v.isMapping = false) (key : Text) : v.get? key = none := by
  cases v with
  | mapping entries => cases leaf
  | _ => rfl

end Value

namespace Settings

open Value

/-! One value over one other. -/

theorem overlayValue_mapping (entries overrides : Keyed Value) :
    overlayValue (some (.mapping entries)) (.mapping overrides) =
      .mapping (overlay entries overrides) :=
  rfl

theorem overlayValue_of_leaf (base : Option Value) {v : Value} (leaf : v.isMapping = false) :
    overlayValue base v = v := by
  cases v with
  | mapping entries => cases leaf
  | _ => rfl

theorem overlayValue_over_leaf {base : Option Value}
    (leaf : forall b, base = some b -> b.isMapping = false) (v : Value) :
    overlayValue base v = v := by
  rcases base with _ | b
  · cases v <;> rfl
  · have noMapping := leaf b rfl
    cases b with
    | mapping entries => cases noMapping
    | _ => cases v <;> rfl

/-- What a value is laid over is a mapping, or it makes no difference to the value. -/
theorem isMapping_or_leaf (base : Option Value) :
    (exists entries, base = some (.mapping entries)) ∨
      forall b, base = some b -> b.isMapping = false := by
  rcases base with _ | b
  · exact .inr fun b found => nomatch found
  · cases isMapping : b.isMapping with
    | true =>
        obtain ⟨entries, rfl⟩ := exists_of_isMapping isMapping
        exact .inl ⟨entries, rfl⟩
    | false =>
        refine .inr ?_
        rintro _ ⟨⟩
        exact isMapping

theorem isMapping_overlayValue (base : Option Value) (v : Value) :
    (overlayValue base v).isMapping = v.isMapping := by
  rcases isMapping_or_leaf base with ⟨entries, rfl⟩ | leaf
  · cases v <;> rfl
  · rw [overlayValue_over_leaf leaf]

/-! Entries over others. -/

section
variable {overrides : Keyed Value} (distinct : (Keyed.names overrides).Nodup) (base : Keyed Value)
include distinct

/-- The names stay in their places, and those that were not there come behind them. -/
theorem names_overlay :
    Keyed.names (overlay base overrides) =
      Keyed.names base ++ (Keyed.names overrides).filter fun name =>
        decide (name ∉ Keyed.names base) := by
  induction overrides generalizing base with
  | nil => simp [overlay, Keyed.names]
  | cons entry rest ih =>
      rcases entry with ⟨key, v⟩
      obtain ⟨absent, distinctRest⟩ := List.nodup_cons.mp distinct
      have whole : Keyed.names ((key, v) :: rest) = key :: Keyed.names rest := rfl
      rw [overlay, ih distinctRest, Keyed.names_set, whole]
      by_cases present : key ∈ Keyed.names base
      · rw [if_pos present, List.filter_cons_of_neg (by simp [present])]
      · have alike : (Keyed.names rest).filter
            (fun name => decide (name ∉ Keyed.names base ++ [key])) =
            (Keyed.names rest).filter fun name => decide (name ∉ Keyed.names base) := by
          apply List.filter_congr
          intro name member
          have other : name ≠ key := fun same => absent (same ▸ member)
          simp [other]
        rw [if_neg present, List.filter_cons_of_pos (by simp [present]), alike, List.append_assoc]
        rfl

/-- Under each name there is what was there, with what is laid over it. -/
theorem get?_overlay (key : Text) :
    Keyed.get? key (overlay base overrides) =
      ((Keyed.get? key overrides).map (overlayValue (Keyed.get? key base))).or
        (Keyed.get? key base) := by
  induction overrides generalizing base with
  | nil => rfl
  | cons entry rest ih =>
      rcases entry with ⟨k, v⟩
      obtain ⟨absent, distinctRest⟩ := List.nodup_cons.mp distinct
      rw [overlay, ih distinctRest, Keyed.get?_set, Keyed.get?_cons]
      by_cases same : k = key
      · subst same
        rw [if_pos rfl, if_pos rfl, Keyed.get?_eq_none_iff.mpr absent]
        rfl
      · rw [if_neg same, if_neg same]

theorem nodup_names_overlay (distinctBase : (Keyed.names base).Nodup) :
    (Keyed.names (overlay base overrides)).Nodup := by
  rw [names_overlay distinct]
  refine List.nodup_append.mpr ⟨distinctBase, distinct.filter _, ?_⟩
  intro name inBase other isNew same
  have absent := of_decide_eq_true (List.mem_filter.mp isNew).2
  exact absent (same ▸ inBase)

end

/-! Paths. -/

/-- One step of a path: what a mapping that was laid over another value has under a name. -/
theorem get?_overlayValue (base : Option Value) {v : Value} (isMapping : v.isMapping = true)
    (once : v.namesOnce = true) (key : Text) :
    (overlayValue base v).get? key =
      ((v.get? key).map (overlayValue (base.bind fun b => b.get? key))).or
        (base.bind fun b => b.get? key) := by
  obtain ⟨overrides, rfl⟩ := exists_of_isMapping isMapping
  rcases isMapping_or_leaf base with ⟨entries, rfl⟩ | leaf
  · exact get?_overlay (nodup_of_namesOnce once) entries key
  · have nothing : (base.bind fun b => b.get? key) = none := by
      rcases base with _ | b
      · rfl
      · exact get?_of_leaf (leaf b rfl) key
    have same : overlayValue none = id := funext fun w => overlayValue_over_leaf (by simp) w
    rw [overlayValue_over_leaf leaf, nothing, same, Option.map_id, Option.or_none, id]

/-- Where the upper value has something, this is laid over what the lower one has there. -/
theorem at?_overlayValue_of_some {path : List Text} (base : Option Value) {v w : Value}
    (once : v.namesOnce = true) (found : v.at? path = some w) :
    (overlayValue base v).at? path = some (overlayValue (base.bind (at? path)) w) := by
  induction path generalizing base v with
  | nil =>
      obtain rfl : v = w := Option.some.inj found
      have whole : base.bind (at? []) = base := by cases base <;> rfl
      rw [whole]
      rfl
  | cons key path ih =>
      rw [at?, Option.bind_eq_some_iff] at found
      obtain ⟨next, entry, behind⟩ := found
      have below : base.bind (at? (key :: path)) =
          (base.bind fun b => b.get? key).bind (at? path) :=
        (Option.bind_assoc ..).symm
      rw [at?, get?_overlayValue base (isMapping_of_get? entry) once, entry, below,
        ← ih _ (namesOnce_of_get? once entry) behind]
      rfl

/-- Where the upper value has nothing, and nothing but mappings on the way
there, the lower one is left. -/
theorem at?_overlayValue_of_none {path : List Text} (base : Option Value) {v : Value}
    (once : v.namesOnce = true) (absent : v.at? path = none)
    (mappings : forall front w, front <+: path -> v.at? front = some w -> w.isMapping = true) :
    (overlayValue base v).at? path = base.bind (at? path) := by
  induction path generalizing base v with
  | nil => cases absent
  | cons key path ih =>
      have isMapping : v.isMapping = true := mappings [] v List.nil_prefix rfl
      have below : base.bind (at? (key :: path)) =
          (base.bind fun b => b.get? key).bind (at? path) :=
        (Option.bind_assoc ..).symm
      rw [at?, get?_overlayValue base isMapping once, below]
      cases entry : v.get? key with
      | none => rfl
      | some next =>
          have step : forall rest, v.at? (key :: rest) = next.at? rest := by
            intro rest
            rw [at?, entry, Option.bind_some]
          refine ih _ (namesOnce_of_get? once entry) (step path ▸ absent) ?_
          intro front w inFront found
          exact mappings (key :: front) w (List.cons_prefix_cons.mpr ⟨rfl, inFront⟩)
            (step front ▸ found)

/-! Once more. -/

/-- A value laid over itself is itself. -/
theorem overlayValue_self {v : Value} (once : v.namesOnce = true) :
    overlayValue (some v) v = v := by
  induction v using induction_on_entries with
  | leaf v leaf => exact overlayValue_of_leaf _ leaf
  | mapping entries ih =>
      have distinct := nodup_of_namesOnce once
      rw [overlayValue_mapping]
      refine congrArg Value.mapping
        (Keyed.eq_of_names_of_get? (nodup_names_overlay distinct _ distinct) ?_ ?_)
      · rw [names_overlay distinct, List.filter_eq_nil_iff.mpr (by simp), List.append_nil]
      · intro key
        rw [get?_overlay distinct]
        cases found : Keyed.get? key entries with
        | none => rfl
        | some w =>
            rw [Option.map_some, ih key w found (namesOnce_of_get? once found), Option.some_or]

/-- Laying a value once more over what it was laid over changes nothing. -/
theorem overlayValue_overlayValue {base : Option Value} {v : Value}
    (onceBase : forall b, base = some b -> b.namesOnce = true) (once : v.namesOnce = true) :
    overlayValue base (overlayValue base v) = overlayValue base v := by
  induction v using induction_on_entries generalizing base with
  | leaf v leaf => rw [overlayValue_of_leaf _ leaf, overlayValue_of_leaf _ leaf]
  | mapping overrides ih =>
      rcases isMapping_or_leaf base with ⟨entries, rfl⟩ | leaf
      · have distinct := nodup_of_namesOnce once
        have distinctBase := nodup_of_namesOnce (onceBase _ rfl)
        have distinctOver := nodup_names_overlay distinct entries distinctBase
        rw [overlayValue_mapping, overlayValue_mapping]
        refine congrArg Value.mapping
          (Keyed.eq_of_names_of_get? (nodup_names_overlay distinctOver _ distinctBase) ?_ ?_)
        · rw [names_overlay distinctOver, names_overlay distinct, List.filter_append,
            List.filter_filter, List.filter_eq_nil_iff.mpr (by simp), List.nil_append]
          simp only [Bool.and_self]
        · -- under each name the second layer meets what the first one left there
          intro key
          rw [get?_overlay distinctOver, get?_overlay distinct]
          cases laid : Keyed.get? key overrides with
          | none =>
              cases below : Keyed.get? key entries with
              | none => rfl
              | some b =>
                  have self := overlayValue_self (namesOnce_of_get? (onceBase _ rfl) below)
                  rw [Option.map_none, Option.none_or, Option.map_some, self, Option.some_or]
          | some w =>
              have onceBelow : forall b, Keyed.get? key entries = some b -> b.namesOnce = true :=
                fun b below => namesOnce_of_get? (onceBase _ rfl) below
              have again := ih key w laid onceBelow (namesOnce_of_get? once laid)
              rw [Option.map_some, Option.some_or, Option.map_some, again, Option.some_or]
      · rw [overlayValue_over_leaf leaf, overlayValue_over_leaf leaf]

end Settings
end SchemaAtlas
