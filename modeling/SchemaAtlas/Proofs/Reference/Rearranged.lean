import SchemaAtlas.Proofs.Reference.Law

namespace SchemaAtlas
namespace Depth

/-!
Depths when the list of tables is rearranged.

The references of a matcher depend on the two tables that they join and not on where these stand, so
rearranging a list renames the positions of its graph and changes nothing else.  The walk takes
another course on the renamed graph.  Without cycles its course does not matter: no reference is
ignored, and the law of depths then has a single solution.
-/

/-- The items of a list at some positions, in the order of the positions. -/
def arranged {α : Type} (order : List Nat) (items : List α) : List α :=
  order.filterMap fun i => items[i]?

theorem getElem?_arranged {α : Type} {order : List Nat} {items : List α}
    (inside : forall i, i ∈ order -> i < items.length) (p : Nat) :
    (arranged order items)[p]? = order[p]?.bind fun i => items[i]? := by
  induction order generalizing p with
  | nil => rfl
  | cons i rest ih =>
      have later := ih fun j member => inside j (List.mem_cons_of_mem i member)
      have found : items[i]? = some (items.get ⟨i, inside i List.mem_cons_self⟩) :=
        List.getElem?_eq_getElem (inside i List.mem_cons_self)
      have step : arranged (i :: rest) items = items.get
          ⟨i, inside i List.mem_cons_self⟩ :: arranged rest items :=
        List.filterMap_cons_some found
      rw [step]
      cases p with
      | zero => exact found.symm
      | succ p => exact later p

/-! References between two tables. -/

/-- A table refers to another one: one of its keys is the key of the other, or, where plurals
count, a singular form of it. -/
def PointsTo (m : Matcher) (e target : Entity) : Prop :=
  exists key, key ∈ m.referredKeys e ∧
    (key = Name.referenceKey target.name ∨
      m.followsPlurals = true ∧ key ∈ Name.singularForms (Name.referenceKey target.name))

theorem mem_collect_iff {self : Nat} {found positions : List Nat} {p : Nat} :
    p ∈ Matcher.collect self found positions ↔ p ∈ found ∨ p ∈ positions ∧ p ≠ self := by
  refine ⟨mem_collect, ?_⟩
  induction positions generalizing found with
  | nil =>
      rintro (before | ⟨none, _⟩)
      · exact before
      · cases none
  | cons first rest ih =>
      intro reason
      rw [Matcher.collect]
      apply ih
      -- the first position is left out only where it is the table itself or was found before
      by_cases passed : (first == self || found.contains first) = true
      · rw [if_pos passed]
        rcases reason with before | ⟨member, other⟩
        · exact Or.inl before
        · rcases List.mem_cons.mp member with rfl | later
          · rcases Bool.or_eq_true_iff.mp passed with isSelf | isFound
            · exact absurd (beq_iff_eq.mp isSelf) other
            · exact Or.inl (List.contains_iff_mem.mp isFound)
          · exact Or.inr ⟨later, other⟩
      · rw [if_neg passed]
        rcases reason with before | ⟨member, other⟩
        · exact Or.inl (List.mem_append_left _ before)
        · rcases List.mem_cons.mp member with rfl | later
          · exact Or.inl (List.mem_append_right _ List.mem_cons_self)
          · exact Or.inr ⟨later, other⟩

theorem mem_positionsOf {key : Text} {keys : List Text} {p : Nat} :
    p ∈ Matcher.positionsOf key keys ↔ keys[p]? = some key := by
  rw [Matcher.positionsOf, List.mem_filter, List.mem_range, beq_iff_eq]
  constructor
  · exact And.right
  · intro found
    exact ⟨(List.getElem?_eq_some_iff.mp found).1, found⟩

theorem mem_distinct {key : Text} {keys : List Text} :
    key ∈ Matcher.distinct keys ↔ key ∈ keys := by
  induction keys with
  | nil => exact Iff.rfl
  | cons first rest ih =>
      rw [Matcher.distinct, List.mem_cons, List.mem_cons, List.mem_filter, ih, bne_iff_ne]
      by_cases same : key = first
      · simp only [same, true_or]
      · simp only [same, false_or, ne_eq, not_false_eq_true, and_true]

theorem mem_targets_iff {plurals : Bool} {keys : List Text} {key : Text} {p : Nat} :
    p ∈ Matcher.targets plurals keys key ↔
      exists k, keys[p]? = some k ∧ (key = k ∨ plurals = true ∧ key ∈ Name.singularForms k) := by
  have plural : p ∈ ((Matcher.distinct keys).filter fun k =>
      (Name.singularForms k).contains key).flatMap
      (fun k => Matcher.positionsOf k keys) ↔ exists k, keys[p]? = some k ∧
        key ∈ Name.singularForms k := by
    rw [List.mem_flatMap]
    constructor
    · rintro ⟨k, chosen, stands⟩
      exact ⟨k, mem_positionsOf.mp stands, List.contains_iff_mem.mp (List.mem_filter.mp chosen).2⟩
    · rintro ⟨k, found, singular⟩
      have listed := mem_distinct.mpr (List.mem_of_getElem? found)
      exact ⟨k, List.mem_filter.mpr ⟨listed, List.contains_iff_mem.mpr singular⟩,
        mem_positionsOf.mpr found⟩
  rw [Matcher.targets, List.mem_append, mem_positionsOf]
  cases plurals with
  | false =>
      constructor
      · rintro (direct | none)
        · exact ⟨key, direct, Or.inl rfl⟩
        · cases none
      · rintro ⟨k, found, rfl | ⟨impossible, _⟩⟩
        · exact Or.inl found
        · cases impossible
  | true =>
      rw [if_pos rfl, plural]
      constructor
      · rintro (direct | ⟨k, found, singular⟩)
        · exact ⟨key, direct, Or.inl rfl⟩
        · exact ⟨k, found, Or.inr ⟨rfl, singular⟩⟩
      · rintro ⟨k, found, rfl | ⟨_, singular⟩⟩
        · exact Or.inl found
        · exact Or.inr ⟨k, found, singular⟩

/-- What a reference depends on: the tables at its two ends, and that these
stand at different positions. -/
theorem refers_adjacency_iff {m : Matcher} {entities : List Entity} {i j : Nat} :
    Refers (m.adjacency entities) i j ↔
      i ≠ j ∧ exists e target, entities[i]? = some e ∧ entities[j]? = some target ∧
        PointsTo m e target := by
  have row : forall e, entities[i]? = some e ->
      (m.adjacency entities).getD i [] = m.references entities i e := by
    intro e found
    simp [Matcher.adjacency, List.getD_eq_getElem?_getD, found]
  have listed : forall e, j ∈ m.references entities i e ↔
      i ≠ j ∧ exists target, entities[j]? = some target ∧ PointsTo m e target := by
    intro e
    have keyed : forall k, (Matcher.keys entities)[j]? = some k ↔
        exists target, entities[j]? = some target ∧ Name.referenceKey target.name = k := by
      intro k
      rw [Matcher.keys, List.getElem?_map, Option.map_eq_some_iff]
    rw [Matcher.references, mem_collect_iff, List.mem_flatMap]
    constructor
    · rintro (none | ⟨⟨key, referred, target⟩, other⟩)
      · cases none
      · rcases mem_targets_iff.mp target with ⟨k, stands, fits⟩
        rcases (keyed k).mp stands with ⟨entity, found, rfl⟩
        exact ⟨Ne.symm other, entity, found, key, referred, fits⟩
    · rintro ⟨other, entity, found, key, referred, fits⟩
      have stands := (keyed _).mpr ⟨entity, found, rfl⟩
      exact Or.inr ⟨⟨key, referred, mem_targets_iff.mpr ⟨_, stands, fits⟩⟩, Ne.symm other⟩
  constructor
  · intro refers
    have inside : i < entities.length := length_adjacency m entities ▸ inside_of_refers refers
    have found : entities[i]? = some (entities.get ⟨i, inside⟩) := List.getElem?_eq_getElem inside
    rw [Refers, row _ found, listed] at refers
    rcases refers with ⟨other, target, there, points⟩
    exact ⟨other, _, target, found, there, points⟩
  · rintro ⟨other, e, target, found, there, points⟩
    rw [Refers, row e found, listed]
    exact ⟨other, target, there, points⟩

/-! A rearranged graph. -/

/-- A graph whose positions are those of another one, renamed. -/
structure Renames (order : List Nat) (references renamed : List (List Nat)) : Prop where
  permutation : order.Perm (List.range references.length)
  size : renamed.length = references.length
  refers : forall p q i j, order[p]? = some i -> order[q]? = some j ->
    (Refers renamed p q ↔ Refers references i j)

namespace Renames

variable {order : List Nat} {references renamed : List (List Nat)}

theorem position (renames : Renames order references renamed) {i : Nat}
    (inside : i < references.length) : exists p : Nat, order[p]? = some i :=
  List.getElem?_of_mem (renames.permutation.mem_iff.mpr (List.mem_range.mpr inside))

theorem original (renames : Renames order references renamed) {p : Nat}
    (inside : p < renamed.length) : exists i, order[p]? = some i ∧ i < references.length := by
  have long : p < order.length := by
    rw [renames.permutation.length_eq, List.length_range, ← renames.size]
    exact inside
  refine ⟨order.get ⟨p, long⟩, List.getElem?_eq_getElem long, ?_⟩
  exact List.mem_range.mp (renames.permutation.mem_iff.mp (List.get_mem order ⟨p, long⟩))

theorem inside_of_getElem? (renames : Renames order references renamed) {p i : Nat}
    (found : order[p]? = some i) : p < renamed.length ∧ i < references.length := by
  constructor
  · rw [renames.size, ← List.length_range (n := references.length), ← renames.permutation.length_eq]
    exact (List.getElem?_eq_some_iff.mp found).1
  · exact List.mem_range.mp (renames.permutation.mem_iff.mp (List.mem_of_getElem? found))

/-- Paths of the renamed graph are paths of the original one. -/
theorem reaches (renames : Renames order references renamed) (graph : IsGraph renamed) {p q : Nat}
    (path : Reaches renamed p q) :
    exists i j, order[p]? = some i ∧ order[q]? = some j ∧ Reaches references i j := by
  induction path with
  | single refers =>
      rcases renames.original (inside_of_refers refers) with ⟨i, foundI, _⟩
      rcases renames.original (graph.inside _ _ refers) with ⟨j, foundJ, _⟩
      exact ⟨i, j, foundI, foundJ,
        Relation.TransGen.single ((renames.refers _ _ i j foundI foundJ).mp refers)⟩
  | tail _ refers ih =>
      rcases ih with ⟨i, j, foundI, foundJ, before⟩
      rcases renames.original (graph.inside _ _ refers) with ⟨k, foundK, _⟩
      exact ⟨i, k, foundI, foundK, before.tail ((renames.refers _ _ j k foundJ foundK).mp refers)⟩

theorem acyclic (renames : Renames order references renamed) (graph : IsGraph renamed)
    (acyclic : forall i, ¬ Reaches references i i) (p : Nat) : ¬ Reaches renamed p p := by
  intro path
  rcases renames.reaches graph path with ⟨i, j, foundI, foundJ, original⟩
  rw [foundI] at foundJ
  exact acyclic i (Option.some.inj foundJ ▸ original)

end Renames

theorem foldl_max_congr {first second : List Nat} (same : forall n, n ∈ first ↔ n ∈ second) :
    first.foldl max 0 = second.foldl max 0 := by
  rw [foldl_max_eq_getD second]
  apply foldl_max_eq
  · intro n member
    exact List.le_max?_getD_of_mem ((same n).mp member)
  · cases found : second.max? with
    | none => exact Or.inl rfl
    | some n => exact Or.inr ((same n).mpr (List.max?_mem found))

/-- Where nothing is ignored, the depth of a table is one more than the greatest
depth that it refers to. -/
theorem depthAt_of_acyclic {references : List (List Nat)} (graph : IsGraph references)
    (acyclic : forall i, ¬ Reaches references i i) {i : Nat} (inside : i < references.length) :
    depthAt references i = 1 + ((references.getD i []).map (depthAt references)).foldl max 0 := by
  have law := depthLaw_walk graph
  have all : ((references.getD i []).filter fun j => !climbs references i j) =
      references.getD i [] := by
    apply List.filter_eq_self.mpr
    intro j _
    rw [law.ignored_eq_false acyclic i j]
    rfl
  have counted := law.counted i inside
  rw [all] at counted
  exact counted

/-- The law has one solution on a graph without cycles, whatever its positions are called. -/
theorem depthAt_renamed {order : List Nat} {references renamed : List (List Nat)}
    (renames : Renames order references renamed) (graph : IsGraph references)
    (renamedGraph : IsGraph renamed)
    (acyclic : forall i, ¬ Reaches references i i) {p i : Nat} (found : order[p]? = some i) :
    depthAt renamed p = depthAt references i := by
  -- by the depth in the original graph, which falls along every reference
  induction size : depthAt references i using Nat.strong_induction_on generalizing p i with
  | h d ih =>
      subst size
      rcases renames.inside_of_getElem? found with ⟨insideP, insideI⟩
      have falling : forall j, Refers references i j ->
          depthAt references j < depthAt references i := by
        intro j refers
        exact (depthLaw_walk graph).falling i j refers
          ((depthLaw_walk graph).ignored_eq_false acyclic i j)
      rw [depthAt_of_acyclic renamedGraph (renames.acyclic renamedGraph acyclic) insideP,
        depthAt_of_acyclic graph acyclic insideI]
      congr 1
      apply foldl_max_congr
      intro n
      rw [List.mem_map, List.mem_map]
      constructor
      · rintro ⟨q, refers, rfl⟩
        rcases renames.original (renamedGraph.inside p q refers) with ⟨j, foundJ, _⟩
        have refersJ : Refers references i j := (renames.refers p q i j found foundJ).mp refers
        exact ⟨j, refersJ, (ih _ (falling j refersJ) foundJ rfl).symm⟩
      · rintro ⟨j, refers, rfl⟩
        rcases renames.position (graph.inside i j refers) with ⟨q, foundJ⟩
        exact ⟨q, (renames.refers p q i j found foundJ).mpr refers,
          ih _ (falling j refers) foundJ rfl⟩

theorem renames_arranged (m : Matcher) {entities : List Entity} {order : List Nat}
    (permutation : order.Perm (List.range entities.length)) :
    Renames order (m.adjacency entities) (m.adjacency (arranged order entities)) := by
  have inside : forall i, i ∈ order -> i < entities.length := by
    intro i member
    exact List.mem_range.mp (permutation.mem_iff.mp member)
  have distinct : order.Nodup := permutation.nodup_iff.mpr List.nodup_range
  have placed : forall {p i : Nat},
      order[p]? = some i -> (arranged order entities)[p]? = entities[i]? := by
    intro p i found
    rw [getElem?_arranged inside, found, Option.bind_some]
  constructor
  · rw [length_adjacency]
    exact permutation
  · rw [length_adjacency, length_adjacency, arranged]
    have all : forall i, i ∈ order -> (entities[i]?).isSome = true := by
      intro i member
      rw [List.getElem?_eq_getElem (inside i member)]
      rfl
    rw [List.length_filterMap_eq_countP, List.countP_eq_length.mpr all, permutation.length_eq,
      List.length_range]
  · intro p q i j foundP foundQ
    have apart : p ≠ q ↔ i ≠ j := by
      rw [not_iff_not]
      constructor
      · rintro rfl
        exact Option.some.inj (foundP.symm.trans foundQ)
      · rintro rfl
        have long := (List.getElem?_eq_some_iff.mp foundP).1
        exact (List.getElem?_inj long distinct).mp (foundP.trans foundQ.symm)
    rw [refers_adjacency_iff, refers_adjacency_iff, placed foundP, placed foundQ, apart]

/-! The depths that tables are given. -/

/-- The depth that a table is given by its position, counted from either end. -/
def depthIn (m : Matcher) (reverse : Bool) (entities : List Entity) (i : Nat) : Nat :=
  if reverse then (ofAdjacency (m.adjacency entities)).foldl max 0 - depthAt
    (m.adjacency entities) i
  else depthAt (m.adjacency entities) i

theorem ofAdjacency_eq (references : List (List Nat)) :
    ofAdjacency references = (List.range references.length).map (depthAt references) :=
  rfl

theorem ofEntities_eq (m : Matcher) (reverse : Bool) (entities : List Entity) :
    ofEntities m reverse entities = (List.range entities.length).map
      (depthIn m reverse entities) := by
  unfold ofEntities depthIn
  cases reverse with
  | false =>
      change ofAdjacency (m.adjacency entities) = _
      rw [ofAdjacency_eq, length_adjacency]
      rfl
  | true =>
      change reversed (ofAdjacency (m.adjacency entities)) = _
      rw [reversed]
      nth_rewrite 2 [ofAdjacency_eq]
      rw [List.map_map, length_adjacency]
      rfl

theorem getElem?_calculate (m : Matcher) (reverse : Bool) (entities : List Entity) (i : Nat) :
    (calculate m reverse entities)[i]? =
      entities[i]?.map fun e => { e with depth := (depthIn m reverse entities i : Int) } := by
  rw [calculate, assign, List.getElem?_zipWith, ofEntities_eq, List.getElem?_map]
  cases found : entities[i]? with
  | none => rfl
  | some e =>
      have inside : i < entities.length := (List.getElem?_eq_some_iff.mp found).1
      rw [List.getElem?_range inside]
      rfl

theorem length_calculate (m : Matcher) (reverse : Bool) (entities : List Entity) :
    (calculate m reverse entities).length = entities.length := by
  have names := congrArg List.length (map_calculate Entity.name (fun _ _ => rfl) m reverse entities)
  rwa [List.length_map, List.length_map] at names

/-- Without cycles, calculating depths and rearranging the tables can be done in either order:
whatever place a table is moved to, it is given the same depth, counted from either end. -/
theorem calculate_arranged (m : Matcher) (reverse : Bool) {entities : List Entity}
    {order : List Nat} (permutation : order.Perm (List.range entities.length))
    (acyclic : forall i, ¬ Reaches (m.adjacency entities) i i) :
    calculate m reverse (arranged order entities) = arranged order
      (calculate m reverse entities) := by
  have renames := renames_arranged m permutation
  have graph := isGraph_adjacency m entities
  have renamedGraph := isGraph_adjacency m (arranged order entities)
  have forward : forall p i, order[p]? = some i ->
      depthAt (m.adjacency (arranged order entities)) p = depthAt (m.adjacency entities) i := by
    intro p i found
    exact depthAt_renamed renames graph renamedGraph acyclic found
  have greatest : (ofAdjacency (m.adjacency (arranged order entities))).foldl max 0 =
      (ofAdjacency (m.adjacency entities)).foldl max 0 := by
    apply foldl_max_congr
    intro n
    rw [ofAdjacency_eq, ofAdjacency_eq, List.mem_map, List.mem_map]
    constructor
    · rintro ⟨p, member, rfl⟩
      rcases renames.original (List.mem_range.mp member) with ⟨i, found, inside⟩
      exact ⟨i, List.mem_range.mpr inside, (forward p i found).symm⟩
    · rintro ⟨i, member, rfl⟩
      rcases renames.position (List.mem_range.mp member) with ⟨p, found⟩
      exact ⟨p, List.mem_range.mpr (renames.inside_of_getElem? found).1, forward p i found⟩
  have inside : forall i, i ∈ order -> i < entities.length := by
    intro i member
    exact List.mem_range.mp (permutation.mem_iff.mp member)
  have insideCalculated : forall i, i ∈ order -> i < (calculate m reverse entities).length := by
    intro i member
    rw [length_calculate]
    exact inside i member
  apply List.ext_getElem?
  intro p
  rw [getElem?_calculate, getElem?_arranged inside, getElem?_arranged insideCalculated]
  cases found : order[p]? with
  | none => rfl
  | some i =>
      have same : depthIn m reverse (arranged order entities) p = depthIn m reverse entities i := by
        rw [depthIn, depthIn, greatest, forward p i found]
      rw [Option.bind_some, Option.bind_some, getElem?_calculate, same]

/-- A graph is without cycles where some rank falls along every reference. -/
theorem acyclic_of_falling {references : List (List Nat)} (rank : Nat -> Nat)
    (falling : forall i j, Refers references i j -> rank j < rank i) (i : Nat) :
    ¬ Reaches references i i := by
  have lower : forall j, Reaches references i j -> rank j < rank i := by
    intro j path
    induction path with
    | single refers => exact falling i _ refers
    | tail _ refers ih => exact Nat.lt_trans (falling _ _ refers) ih
  intro path
  exact Nat.lt_irrefl _ (lower i path)

/-- Orders that refer to customers, customers, and items that refer to orders. -/
def shop : List Entity :=
  let table (name : String) (columns : List String) : Entity :=
    { Entity.empty name 0 with
      columns := columns.map fun c => ⟨c, "INT", none, true, none, false, false, none, none⟩ }
  [table "orders" ["id", "customer_id"], table "customers" ["id"],
    table "items" ["order_id", "count"]]

/-- The items moved to the front and the customers to the end of the shop, counted
from the deepest table. -/
theorem calculate_shop_arranged :
    [2, 0, 1].Perm (List.range shop.length) ∧
      (forall i, ¬ Reaches ((Matcher.suffix "_id" true).adjacency shop) i i) ∧
      calculate (.suffix "_id" true) true (arranged [2, 0, 1] shop) =
        arranged [2, 0, 1] (calculate (.suffix "_id" true) true shop) := by
  have graph : (Matcher.suffix "_id" true).adjacency shop = [[1], [], [0]] := by decide
  have acyclic : forall i, ¬ Reaches ((Matcher.suffix "_id" true).adjacency shop) i i := by
    rw [graph]
    apply acyclic_of_falling fun i => if i = 0 then 1 else if i = 1 then 0 else 2
    intro i j refers
    rcases i with _ | _ | _ | i
    · cases List.mem_singleton.mp refers
      decide
    · cases refers
    · cases List.mem_singleton.mp refers
      decide
    · cases refers
  have permutation : [2, 0, 1].Perm (List.range shop.length) := by decide
  exact ⟨permutation, acyclic, calculate_arranged _ true permutation acyclic⟩

end Depth
end SchemaAtlas
