import Mathlib.Data.Finset.Card
import Mathlib.Order.Interval.Finset.Nat
import SchemaAtlas.Proofs.Reference.Calculate
import SchemaAtlas.Proofs.Reference.Walk

namespace SchemaAtlas
namespace Depth

/-!
The law of depths, on graphs with cycles as well.

Some references are ignored; each of them closes a cycle, and leads to a deeper table.  All others
lead to a table of smaller depth, and the depth of a table is one more than the greatest of these.
Tables are therefore counted from one up to at most their number, and on a graph without cycles
nothing is ignored.
-/

/-- Depths that obey the references but for the ignored ones. -/
structure DepthLaw (references : List (List Nat)) (depth : Nat -> Nat)
    (ignored : Nat -> Nat -> Bool) : Prop where
  closing : forall i j, ignored i j = true ->
    Refers references i j ∧ Reaches references j i ∧ depth i < depth j
  falling : forall i j, Refers references i j -> ignored i j = false -> depth j < depth i
  counted : forall i, i < references.length -> depth i =
    1 + (((references.getD i []).filter fun j => !ignored i j).map depth).foldl max 0

/-! The greatest of a list of numbers, zero for the empty list. -/

theorem foldl_max_eq_getD (numbers : List Nat) : numbers.foldl max 0 = numbers.max?.getD 0 := by
  rw [List.foldl_max, Nat.zero_max]

theorem foldl_max_eq {numbers : List Nat} {greatest : Nat}
    (bound : forall n, n ∈ numbers -> n ≤ greatest) (attained : greatest = 0 ∨ greatest ∈ numbers) :
    numbers.foldl max 0 = greatest := by
  rw [foldl_max_eq_getD]
  rcases attained with rfl | member
  · cases found : numbers.max? with
    | none => rfl
    | some n => exact Nat.le_zero.mp (bound n (List.max?_mem found))
  · rw [List.max?_eq_some_iff.mpr ⟨member, bound⟩]
    rfl

/-! Consequences of the law. -/

namespace DepthLaw

variable {references : List (List Nat)} {depth : Nat -> Nat} {ignored : Nat -> Nat -> Bool}

theorem positive (law : DepthLaw references depth ignored) {i : Nat}
    (inside : i < references.length) : 1 ≤ depth i := by
  rw [law.counted i inside]
  exact Nat.le_add_right 1 _

/-- Tables joined by a reference have different depths. -/
theorem ne (law : DepthLaw references depth ignored) {i j : Nat} (refers : Refers references i j) :
    depth i ≠ depth j := by
  cases known : ignored i j with
  | true => exact Nat.ne_of_lt (law.closing i j known).2.2
  | false => exact Nat.ne_of_gt (law.falling i j refers known)

/-- Without cycles no reference is ignored. -/
theorem ignored_eq_false (law : DepthLaw references depth ignored)
    (acyclic : forall i, ¬ Reaches references i i) (i j : Nat) : ignored i j = false := by
  cases known : ignored i j with
  | false => rfl
  | true =>
      rcases law.closing i j known with ⟨refers, reaches, _⟩
      exact absurd (Relation.TransGen.head refers reaches) (acyclic i)

/-- Every number from one up to a depth is itself a depth: a table that is deeper than one refers
to a table that is less deep by one. -/
theorem exists_depth (law : DepthLaw references depth ignored)
    (graph : IsGraph references) {k : Nat} (one : 1 ≤ k) {i : Nat} (inside : i < references.length)
    (least : k ≤ depth i) : exists j, j < references.length ∧ depth j = k := by
  induction size : depth i using Nat.strong_induction_on generalizing i with
  | h d ih =>
      subst size
      rcases Nat.eq_or_lt_of_le least with same | less
      · exact ⟨i, inside, same.symm⟩
      · let kept := (references.getD i []).filter fun j => !ignored i j
        have counted : depth i = 1 + (kept.map depth).foldl max 0 := law.counted i inside
        rw [foldl_max_eq_getD] at counted
        cases greatest : (kept.map depth).max? with
        | none =>
            rw [greatest, Option.getD_none] at counted
            omega
        | some n =>
            rw [greatest, Option.getD_some] at counted
            rcases List.mem_map.mp (List.max?_mem greatest) with ⟨j, chosen, rfl⟩
            have refers : Refers references i j := (List.mem_filter.mp chosen).1
            exact ih (depth j) (by omega) (graph.inside i j refers) (by omega) rfl

/-- No depth exceeds the number of tables. -/
theorem le_length (law : DepthLaw references depth ignored) (graph : IsGraph references) {i : Nat}
    (inside : i < references.length) : depth i ≤ references.length := by
  have covered : Finset.Icc 1 (depth i) ⊆ (Finset.range references.length).image depth := by
    intro k member
    rcases Finset.mem_Icc.mp member with ⟨one, least⟩
    rcases law.exists_depth graph one inside least with ⟨j, insideJ, same⟩
    exact Finset.mem_image.mpr ⟨j, Finset.mem_range.mpr insideJ, same⟩
  calc
    depth i = (Finset.Icc 1 (depth i)).card := by rw [Nat.card_Icc, Nat.add_sub_cancel]
    _ ≤ ((Finset.range references.length).image depth).card := Finset.card_le_card covered
    _ ≤ (Finset.range references.length).card := Finset.card_image_le
    _ = references.length := Finset.card_range _

end DepthLaw

/-! The walk obeys the law. -/

/-- The depth that the walk gives to a table. -/
def depthAt (references : List (List Nat)) (i : Nat) : Nat :=
  ((walk references).depth? i).getD 0

/-- The references that lead to a deeper table. -/
def climbs (references : List (List Nat)) (i j : Nat) : Bool :=
  (references.getD i []).contains j && decide (depthAt references i < depthAt references j)

theorem inside_of_refers {references : List (List Nat)} {i j : Nat}
    (refers : Refers references i j) : i < references.length := by
  by_contra outside
  have missing : references[i]? = none := List.getElem?_eq_none (Nat.le_of_not_lt outside)
  rw [Refers, List.getD_eq_getElem?_getD, missing] at refers
  cases refers

/-- At the end of the walk each table is settled and nothing is owed. -/
theorem settled_walk {references : List (List Nat)} (graph : IsGraph references) {i : Nat}
    (inside : i < references.length) :
    Settled references (walk references).memo [] i (depthAt references i) := by
  rcases rests_walk graph with ⟨rests, finished⟩
  rcases Option.isSome_iff_exists.mp (finished i inside) with ⟨d, found⟩
  have same : depthAt references i = d := by rw [depthAt, found, Option.getD_some]
  rw [same, ← rests.idle]
  exact rests.sound.settled i d found

theorem depthAt_of_lookup {references : List (List Nat)} {j d : Nat}
    (found : (walk references).memo.lookup j = some d) : depthAt references j = d := by
  rw [depthAt, Walk.depth?, found, Option.getD_some]

/-- A reference leads to a smaller depth, or it closes a cycle and leads to a greater one. -/
theorem refers_cases {references : List (List Nat)} (graph : IsGraph references) {i j : Nat}
    (refers : Refers references i j) :
    depthAt references j < depthAt references i ∨
      Reaches references j i ∧ depthAt references i < depthAt references j := by
  rcases (settled_walk graph (inside_of_refers refers)).followed j refers with
    ⟨d, found, smaller⟩ | ⟨reaches, ⟨d, found, greater⟩ | heard⟩
  · exact Or.inl (depthAt_of_lookup found ▸ smaller)
  · exact Or.inr ⟨reaches, depthAt_of_lookup found ▸ greater⟩
  · cases heard

theorem climbs_eq_true_iff (references : List (List Nat)) (i j : Nat) :
    climbs references i j = true ↔
      Refers references i j ∧ depthAt references i < depthAt references j := by
  rw [climbs, Bool.and_eq_true_iff, List.contains_iff_mem, decide_eq_true_iff]
  rfl

theorem climbs_eq_false_iff {references : List (List Nat)} (graph : IsGraph references) {i j : Nat}
    (refers : Refers references i j) :
    climbs references i j = false ↔ depthAt references j < depthAt references i := by
  rw [← Bool.not_eq_true, climbs_eq_true_iff]
  constructor
  · intro level
    rcases refers_cases graph refers with smaller | ⟨_, greater⟩
    · exact smaller
    · exact absurd ⟨refers, greater⟩ level
  · intro smaller climbing
    exact Nat.lt_asymm smaller climbing.2

theorem depthLaw_walk {references : List (List Nat)} (graph : IsGraph references) :
    DepthLaw references (depthAt references) (climbs references) := by
  constructor
  · intro i j ignored
    rcases (climbs_eq_true_iff references i j).mp ignored with ⟨refers, climbing⟩
    rcases refers_cases graph refers with smaller | ⟨reaches, _⟩
    · exact absurd smaller (Nat.lt_asymm climbing)
    · exact ⟨refers, reaches, climbing⟩
  · intro i j refers followed
    exact (climbs_eq_false_iff graph refers).mp followed
  · intro i inside
    have settled := settled_walk graph inside
    have positive := settled.positive
    let kept := (references.getD i []).filter fun j => !climbs references i j
    have bound : forall d, d ∈ kept.map (depthAt references) -> d ≤ depthAt references i - 1 := by
      intro d member
      rcases List.mem_map.mp member with ⟨j, chosen, rfl⟩
      rcases List.mem_filter.mp chosen with ⟨refers, followed⟩
      have smaller := (climbs_eq_false_iff graph refers).mp (by simpa using followed)
      omega
    have attained : depthAt references i - 1 = 0 ∨
        depthAt references i - 1 ∈ kept.map (depthAt references) := by
      rcases settled.least with one | ⟨j, d, refers, found, next⟩
      · exact Or.inl (by omega)
      · have same := depthAt_of_lookup found
        have followed : climbs references i j = false :=
          (climbs_eq_false_iff graph refers).mpr (by omega)
        have chosen : j ∈ kept := List.mem_filter.mpr ⟨refers, by simpa using followed⟩
        refine Or.inr (List.mem_map.mpr ⟨j, chosen, ?_⟩)
        omega
    rw [foldl_max_eq bound attained]
    omega

/-! References between tables. -/

theorem mem_collect {self : Nat} {found positions : List Nat} {p : Nat}
    (member : p ∈ Matcher.collect self found positions) : p ∈ found ∨ p ∈ positions ∧ p ≠ self := by
  induction positions generalizing found with
  | nil => exact Or.inl member
  | cons first rest ih =>
      rw [Matcher.collect] at member
      rcases ih member with now | ⟨later, other⟩
      · by_cases passed : (first == self || found.contains first) = true
        · rw [if_pos passed] at now
          exact Or.inl now
        · rw [if_neg passed] at now
          rcases List.mem_append.mp now with before | isFirst
          · exact Or.inl before
          · rw [List.mem_singleton.mp isFirst]
            refine Or.inr ⟨List.mem_cons_self, ?_⟩
            intro same
            exact passed (by simp [same])
      · exact Or.inr ⟨List.mem_cons_of_mem _ later, other⟩

theorem mem_targets {plurals : Bool} {keys : List Text} {key : Text} {p : Nat}
    (member : p ∈ Matcher.targets plurals keys key) : p < keys.length := by
  have position : forall k, p ∈ Matcher.positionsOf k keys -> p < keys.length := by
    intro k stands
    exact List.mem_range.mp (List.mem_filter.mp stands).1
  rw [Matcher.targets] at member
  rcases List.mem_append.mp member with direct | plural
  · exact position key direct
  · cases plurals with
    | false => cases plural
    | true =>
        rcases List.mem_flatMap.mp plural with ⟨k, _, stands⟩
        exact position k stands

theorem mem_references {m : Matcher} {entities : List Entity} {self : Nat} {e : Entity} {p : Nat}
    (member : p ∈ m.references entities self e) : p < entities.length ∧ p ≠ self := by
  rcases mem_collect member with none | ⟨target, other⟩
  · cases none
  · rcases List.mem_flatMap.mp target with ⟨key, _, found⟩
    have inside := mem_targets found
    rw [Matcher.keys, List.length_map] at inside
    exact ⟨inside, other⟩

/-- Whatever the matcher, references stay among the tables and none leads back to its own table. -/
theorem isGraph_adjacency (m : Matcher) (entities : List Entity) :
    IsGraph (m.adjacency entities) := by
  have listed : forall i j, Refers (m.adjacency entities) i j -> j < entities.length ∧ j ≠ i := by
    intro i j refers
    have inside : i < entities.length := length_adjacency m entities ▸ inside_of_refers refers
    have row : (m.adjacency entities).getD i [] = m.references entities i
        (entities.get ⟨i, inside⟩) := by
      simp [Matcher.adjacency, List.getD_eq_getElem?_getD, inside]
    rw [Refers, row] at refers
    exact mem_references refers
  constructor
  · intro i j refers
    rw [length_adjacency]
    exact (listed i j refers).1
  · intro i refers
    exact (listed i i refers).2 rfl

/-- The meaning of depths.  For any tables and either way to find references, some references are
ignored so that the depths obey the law: an ignored reference closes a cycle and leads to a
deeper table, any other leads to a table of smaller depth, and a table is one deeper than the
deepest of these or of depth one.  So depths go from one to the number of tables at most, nothing
is ignored where there is no cycle, and tables joined by a reference never share a depth. -/
theorem calculate_obeys_law (m : Matcher) (entities : List Entity) :
    exists depth ignored, (calculate m false entities).map Entity.depth =
        (List.range entities.length).map (fun i => (depth i : Int)) ∧
      DepthLaw (m.adjacency entities) depth ignored ∧
      (forall i, i < entities.length -> 1 ≤ depth i ∧ depth i ≤ entities.length) ∧
      ((forall i, ¬ Reaches (m.adjacency entities) i i) -> forall i j, ignored i j = false) ∧
      forall i j, Refers (m.adjacency entities) i j -> depth i ≠ depth j := by
  have graph := isGraph_adjacency m entities
  have law := depthLaw_walk graph
  have size := length_adjacency m entities
  refine ⟨depthAt (m.adjacency entities), climbs (m.adjacency entities), ?_, law, ?_,
    law.ignored_eq_false, fun i j => law.ne⟩
  · have enough : (ofAdjacency (m.adjacency entities)).length = entities.length := by
      rw [length_ofAdjacency, size]
    change (assign (ofAdjacency (m.adjacency entities)) entities).map Entity.depth = _
    rw [depth_assign enough, ofAdjacency, List.map_map, size]
    rfl
  · intro i inside
    rw [← size] at inside
    exact ⟨law.positive inside, size ▸ law.le_length graph inside⟩

-- A ring of three tables and a fourth one that refers into it: the reference that closes the ring
-- is ignored.
example : ofAdjacency [[1], [2], [0], [2, 0]] = [3, 2, 1, 4] := by
  cbv

end Depth
end SchemaAtlas
