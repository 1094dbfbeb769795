import Mathlib.Logic.Function.Iterate
import SchemaAtlas.Proofs.Reference.Walk

namespace SchemaAtlas
namespace Depth

/-!
The walk is a recursion.

The depth of a table has a recursive definition: a finished table has the depth that was noted for
it, a table on the path adds nothing, and any other is one deeper than the deepest table that it
refers to.  The walk keeps this recursion on a stack of its own.  An open visit with its pending
references does what the recursion does with the list of these references; a visit that is finished
hands its depth down as the recursion returns it.
-/

/-! The recursion. -/

/-- The number of tables that are not on the path. -/
def offPath (references : List (List Nat)) (path : List Nat) : Nat :=
  (List.range references.length).countP fun i => !path.contains i

theorem offPath_cons_le (references : List (List Nat)) (path : List Nat) (node : Nat) :
    offPath references (node :: path) ≤ offPath references path := by
  apply List.countP_mono_left
  intro i _ off
  simp only [List.contains_cons, Bool.not_or, Bool.and_eq_true] at off
  exact off.2

theorem offPath_cons_lt {references : List (List Nat)} {path : List Nat} {node : Nat}
    (inside : node < references.length) (fresh : ¬ path.contains node = true) :
    offPath references (node :: path) < offPath references path := by
  apply countP_lt_of_imp (i := node)
  · intro i off
    simp only [List.contains_cons, Bool.not_or, Bool.and_eq_true] at off
    exact off.2
  · exact List.mem_range.mpr inside
  · simpa using fresh
  · simp

mutual

/-- The depth of a table, and the depths that are noted behind it.  `path` holds the tables whose
depths are being calculated. -/
def depthFrom (references : List (List Nat)) (path : List Nat) (memo : List (Nat × Nat))
    (node : Nat) : Nat × List (Nat × Nat) :=
  match memo.lookup node with
  | some depth => (depth, memo)
  | none =>
    if path.contains node then (0, memo)
    else
      let found := depthsFrom references (node :: path) memo (references.getD node [])
      let depth := 1 + found.1.foldl max 0
      (depth, (node, depth) :: found.2)
termination_by (offPath references path, 1)
decreasing_by
  rename_i fresh
  by_cases inside : node < references.length
  · exact Prod.Lex.left _ _ (offPath_cons_lt inside fresh)
  · -- a table outside the list refers to nothing
    have nothing : references.getD node [] = [] := by
      rw [List.getD_eq_getElem?_getD, List.getElem?_eq_none (Nat.le_of_not_lt inside)]
      rfl
    rw [nothing]
    apply Prod.Lex.right'
    · exact offPath_cons_le references path node
    · decide

/-- The depths of some tables, one after another, and the depths that are noted behind them. -/
def depthsFrom (references : List (List Nat)) (path : List Nat) (memo : List (Nat × Nat)) :
    List Nat -> List Nat × List (Nat × Nat)
  | [] => ([], memo)
  | node :: others =>
    let first := depthFrom references path memo node
    let rest := depthsFrom references path first.2 others
    (first.1 :: rest.1, rest.2)
termination_by others => (offPath references path, 2 * others.length)
decreasing_by
  · apply Prod.Lex.right
    rw [List.length_cons]
    omega
  · apply Prod.Lex.right
    rw [List.length_cons]
    omega

end

/-! One step of the walk. -/

/-- The walk with one reference followed or one visit finished; it stays as it is
where no visit is open. -/
def advance (references : List (List Nat)) : Walk -> Walk
  | ⟨memo, [], cycles⟩ => ⟨memo, [], cycles⟩
  | ⟨memo, ⟨node, [], best⟩ :: below, cycles⟩ =>
      ⟨(node, best + 1) :: memo, note (best + 1) below, cycles⟩
  | ⟨memo, ⟨node, next :: pending, best⟩ :: below, cycles⟩ =>
    match memo.lookup next with
    | some depth => ⟨memo, ⟨node, pending, max best depth⟩ :: below, cycles⟩
    | none =>
      if (⟨memo, ⟨node, next :: pending, best⟩ :: below, cycles⟩ : Walk).isOpen next then
        ⟨memo, ⟨node, pending, best⟩ :: below, cycles + 1⟩
      else if next < references.length then
        ⟨memo, ⟨next, references.getD next [], 0⟩ :: ⟨node, pending, best⟩ :: below, cycles⟩
      else ⟨memo, ⟨node, pending, best⟩ :: below, cycles⟩

/-- The walk runs on from each of its steps. -/
theorem run_advance (references : List (List Nat)) (w : Walk) :
    run references w = run references (advance references w) := by
  fun_cases run references w with
  | case1 memo cycles => rw [advance, run]
  | case2 memo node best below cycles => rw [advance]
  | case3 memo node next pending best below cycles depth found => simp only [advance, found]
  | case4 memo node next pending best below cycles found isOpen =>
      simp only [advance, found, if_pos isOpen]
  | case5 memo node next pending best below cycles found closed inside =>
      simp only [advance, found, if_neg closed, if_pos inside]
  | case6 memo node next pending best below cycles found closed outside =>
      simp only [advance, found, if_neg closed, if_neg outside]

/-- After some number of steps no visit is open, and this is where the walk ends. -/
theorem exists_iterate_advance (references : List (List Nat)) (w : Walk) :
    exists steps, ((advance references)^[steps] w).stack = [] ∧
      (advance references)^[steps] w = run references w := by
  have later : forall {v w : Walk}, advance references w = v ->
      (exists steps, ((advance references)^[steps] v).stack = [] ∧
        (advance references)^[steps] v = run references v) ->
      exists steps, ((advance references)^[steps] w).stack = [] ∧
          (advance references)^[steps] w = run references v := by
    rintro v w rfl ⟨steps, idle, same⟩
    exact ⟨steps + 1, idle, same⟩
  fun_induction run references w with
  | case1 memo cycles => exact ⟨0, rfl, rfl⟩
  | case2 memo node best below cycles ih => exact later rfl ih
  | case3 memo node next pending best below cycles depth found ih =>
      exact later (by simp only [advance, found]) ih
  | case4 memo node next pending best below cycles found isOpen ih =>
      exact later (by simp only [advance, found, if_pos isOpen]) ih
  | case5 memo node next pending best below cycles found closed inside ih =>
      exact later (by simp only [advance, found, if_neg closed, if_pos inside]) ih
  | case6 memo node next pending best below cycles found closed outside ih =>
      exact later (by simp only [advance, found, if_neg closed, if_neg outside]) ih

/-! The walk follows the recursion. -/

section

variable {references : List (List Nat)} {path : List Nat} {memo : List (Nat × Nat)} {node : Nat}

theorem depthFrom_finished {depth : Nat} (found : memo.lookup node = some depth) :
    depthFrom references path memo node = (depth, memo) := by
  rw [depthFrom, found]

theorem depthFrom_onPath (unfinished : memo.lookup node = none)
    (onPath : path.contains node = true) : depthFrom references path memo node = (0, memo) := by
  rw [depthFrom, unfinished]
  exact if_pos onPath

theorem depthFrom_fresh (unfinished : memo.lookup node = none)
    (fresh : ¬ path.contains node = true) : depthFrom references path memo node =
      (1 + (depthsFrom references (node :: path) memo (references.getD node [])).1.foldl max 0,
        (node, 1 + (depthsFrom references (node :: path) memo (references.getD node [])).1.foldl
          max 0) ::
          (depthsFrom references (node :: path) memo (references.getD node [])).2) := by
  rw [depthFrom, unfinished]
  exact if_neg fresh

end

/-- Where the path is that of the open visits, following a reference takes the walk to where the
recursion comes out: with the depths that it noted, and with its depth made known to the
innermost visit. -/
def FollowsOne (references : List (List Nat)) (path : List Nat) (memo : List (Nat × Nat))
    (next : Nat) : Prop :=
  next < references.length -> forall node pending best below cycles, path = node :: nodes below ->
    exists more, run references ⟨memo, ⟨node, next :: pending, best⟩ :: below, cycles⟩ =
      run references ⟨(depthFrom references path memo next).2,
        ⟨node, pending, max best (depthFrom references path memo next).1⟩ :: below, more⟩

/-- The same for all references that are pending in the innermost visit. -/
def FollowsAll (references : List (List Nat)) (path : List Nat) (memo : List (Nat × Nat))
    (pending : List Nat) : Prop :=
  (forall j, j ∈ pending -> j < references.length) ->
    forall node best below cycles, path = node :: nodes below ->
    exists more, run references ⟨memo, ⟨node, pending, best⟩ :: below, cycles⟩ =
      run references ⟨(depthsFrom references path memo pending).2,
        ⟨node, [], (depthsFrom references path memo pending).1.foldl max best⟩ :: below, more⟩

theorem isOpen_eq_contains (memo : List (Nat × Nat)) (stack : List Frame) (cycles node : Nat) :
    (⟨memo, stack, cycles⟩ : Walk).isOpen node = (nodes stack).contains node := by
  rw [Bool.eq_iff_iff, isOpen_eq_true_iff, List.contains_iff_mem]

/-- References stay inside the list. -/
def Confined (references : List (List Nat)) : Prop :=
  forall list, list ∈ references -> forall j, j ∈ list -> j < references.length

instance (references : List (List Nat)) : Decidable (Confined references) :=
  inferInstanceAs
    (Decidable (forall list, list ∈ references -> forall j, j ∈ list -> j < references.length))

theorem Confined.getD {references : List (List Nat)} (confined : Confined references) (node : Nat) :
    forall j, j ∈ references.getD node [] -> j < references.length := by
  intro j member
  rw [List.getD_eq_getElem?_getD] at member
  cases found : references[node]? with
  | none =>
      rw [found] at member
      cases member
  | some list =>
      rw [found] at member
      exact confined list (List.mem_of_getElem? found) j member

/-- Along the recursion, the walk comes by wherever a call begins and ends. -/
theorem follows {references : List (List Nat)} (confined : Confined references) :
    (forall path memo next, FollowsOne references path memo next) ∧
      forall path memo pending, FollowsAll references path memo pending := by
  refine depthFrom.mutual_induct references (FollowsOne references) (FollowsAll references)
    ?finished ?onPath ?fresh ?none ?more
  case finished =>
    intro path memo next depth found _ node pending best below cycles sameNodes
    refine ⟨cycles, ?_⟩
    rw [run_advance, depthFrom_finished found, advance, found]
  case onPath =>
    intro path memo next unfinished onPath _ node pending best below cycles sameNodes
    have isOpen : (⟨memo, ⟨node, next :: pending, best⟩ :: below, cycles⟩ : Walk).isOpen next =
        true := by
      rw [isOpen_eq_contains, ← onPath, sameNodes]
      rfl
    refine ⟨cycles + 1, ?_⟩
    rw [run_advance, depthFrom_onPath unfinished onPath, Nat.max_zero]
    simp only [advance, unfinished, if_pos isOpen]
  case fresh =>
    intro path memo next unfinished fresh ih inList node pending best below cycles sameNodes
    have closed : ¬ (⟨memo, ⟨node, next :: pending, best⟩ :: below, cycles⟩ : Walk).isOpen next =
        true := by
      intro isOpen
      rw [isOpen_eq_contains] at isOpen
      exact fresh (sameNodes ▸ isOpen)
    have opened : advance references ⟨memo, ⟨node, next :: pending, best⟩ :: below, cycles⟩ =
        ⟨memo, ⟨next, references.getD next [], 0⟩ :: ⟨node, pending, best⟩ :: below, cycles⟩ := by
      simp only [advance, unfinished, if_neg closed, if_pos inList]
    rcases ih (confined.getD next) next 0 (⟨node, pending, best⟩ :: below) cycles
      (congrArg _ sameNodes) with ⟨more, same⟩
    refine ⟨more, ?_⟩
    -- the visit opens, its references are followed, and its end hands the depth to the visit below
    rw [run_advance, opened, same, run_advance, depthFrom_fresh unfinished fresh, advance, note,
      Nat.add_comm 1]
  case none =>
    intro path memo _ node best below cycles sameNodes
    refine ⟨cycles, ?_⟩
    rw [depthsFrom]
    rfl
  case more =>
    intro path memo next pending first ihOne ihAll inList node best below cycles sameNodes
    have later : forall j, j ∈ pending -> j < references.length :=
      fun j member => inList j (List.mem_cons_of_mem _ member)
    rcases ihOne (inList next List.mem_cons_self) node pending best below cycles sameNodes with
      ⟨middle, one⟩
    rcases ihAll later node (max best first.1) below middle sameNodes with ⟨more, all⟩
    refine ⟨more, ?_⟩
    rw [one, depthsFrom]
    exact all

/-! Visits of the roots. -/

/-- A visit notes what the recursion notes. -/
theorem visit_eq {references : List (List Nat)} (confined : Confined references)
    (memo : List (Nat × Nat)) (cycles root : Nat) :
    exists more, visit references ⟨memo, [], cycles⟩ root =
      ⟨(depthFrom references [] memo root).2, [], more⟩ := by
  unfold visit
  cases known : (⟨memo, [], cycles⟩ : Walk).depth? root with
  | some depth =>
      refine ⟨cycles, ?_⟩
      rw [depthFrom_finished known]
  | none =>
      rcases (follows confined).2 [root] memo _ (confined.getD root) root 0 [] cycles rfl with
        ⟨more, same⟩
      refine ⟨more, ?_⟩
      change run references ⟨memo, [⟨root, references.getD root [], 0⟩], cycles⟩ = _
      rw [same, run_advance, advance, note, run, depthFrom_fresh known (by simp), Nat.add_comm 1]

theorem foldl_visit_eq {references : List (List Nat)} (confined : Confined references)
    (roots : List Nat) (memo : List (Nat × Nat)) (cycles : Nat) :
    exists more, roots.foldl (visit references) ⟨memo, [], cycles⟩ =
      ⟨(depthsFrom references [] memo roots).2, [], more⟩ := by
  induction roots generalizing memo cycles with
  | nil =>
      refine ⟨cycles, ?_⟩
      rw [depthsFrom]
      rfl
  | cons root roots ih =>
      rcases visit_eq confined memo cycles root with ⟨middle, first⟩
      rcases ih (depthFrom references [] memo root).2 middle with ⟨more, rest⟩
      refine ⟨more, ?_⟩
      rw [List.foldl_cons, first, rest, depthsFrom]

/-- Noted depths stay as they are, and those of tables on the path are not noted. -/
structure Extends (path : List Nat) (memo memo' : List (Nat × Nat)) : Prop where
  kept : forall j d, memo.lookup j = some d -> memo'.lookup j = some d
  apart : forall j, j ∈ path -> memo.lookup j = none -> memo'.lookup j = none

theorem Extends.refl (path : List Nat) (memo : List (Nat × Nat)) : Extends path memo memo :=
  ⟨fun _ _ same => same, fun _ _ same => same⟩

theorem extends_depths (references : List (List Nat)) :
    (forall path memo node, Extends path memo (depthFrom references path memo node).2) ∧
      forall path memo pending, Extends path memo (depthsFrom references path memo pending).2 := by
  refine depthFrom.mutual_induct references
    (fun path memo node => Extends path memo (depthFrom references path memo node).2)
    (fun path memo pending => Extends path memo (depthsFrom references path memo pending).2)
    ?finished ?onPath ?fresh ?none ?more
  case finished =>
    intro path memo node depth found
    rw [depthFrom_finished found]
    exact Extends.refl path memo
  case onPath =>
    intro path memo node unfinished onPath
    rw [depthFrom_onPath unfinished onPath]
    exact Extends.refl path memo
  case fresh =>
    intro path memo node unfinished fresh ih
    rw [depthFrom_fresh unfinished fresh]
    constructor
    · intro j d found
      exact lookup_kept (ih.apart node List.mem_cons_self unfinished) _ j d (ih.kept j d found)
    · intro j onPath missing
      have other : j ≠ node := by
        rintro rfl
        exact fresh (List.contains_iff_mem.mpr onPath)
      rw [lookup_cons, if_neg other]
      exact ih.apart j (List.mem_cons_of_mem node onPath) missing
  case none =>
    intro path memo
    rw [depthsFrom]
    exact Extends.refl path memo
  case more =>
    intro path memo node others first ihOne ihAll
    rw [depthsFrom]
    exact ⟨fun j d found => ihAll.kept j d (ihOne.kept j d found),
      fun j onPath missing => ihAll.apart j onPath (ihOne.apart j onPath missing)⟩

/-- The recursion returns for a root what it notes. -/
theorem lookup_depthFrom (references : List (List Nat)) (memo : List (Nat × Nat)) (root : Nat) :
    (depthFrom references [] memo root).2.lookup root =
      some (depthFrom references [] memo root).1 := by
  cases known : memo.lookup root with
  | some depth => rw [depthFrom_finished known, known]
  | none => rw [depthFrom_fresh known (by simp), lookup_cons, if_pos rfl]

theorem depthsFrom_eq_map (references : List (List Nat)) (memo : List (Nat × Nat))
    (roots : List Nat) : (depthsFrom references [] memo roots).1 =
      roots.map fun i => ((depthsFrom references [] memo roots).2.lookup i).getD 0 := by
  induction roots generalizing memo with
  | nil => rw [depthsFrom, List.map_nil]
  | cons root roots ih =>
      have later := ih (depthFrom references [] memo root).2
      have noted := ((extends_depths references).2 [] _ roots).kept _ _
        (lookup_depthFrom references memo root)
      rw [depthsFrom, List.map_cons, noted, Option.getD_some, ← later]

/-- The walk with its own stack is the recursion.  Whatever the references, also with cycles,
repetitions and tables that refer to themselves: from any state the steps of the walk come to an
end, and the depths are those of the recursion that takes the tables in order, and from each
table its references in order. -/
theorem ofAdjacency_eq_recursion (references : List (List Nat)) (confined : Confined references) :
    (forall w, exists steps, ((advance references)^[steps] w).stack = [] ∧
        (advance references)^[steps] w = run references w) ∧
      ofAdjacency references = (depthsFrom references [] [] (List.range references.length)).1 := by
  refine ⟨exists_iterate_advance references, ?_⟩
  rcases foldl_visit_eq confined (List.range references.length) [] 0 with ⟨cycles, last⟩
  rw [depthsFrom_eq_map, ofAdjacency, walk, last]
  rfl

/-- A ring of three tables, one of which refers to itself and twice to the next, and a fourth
table on a ring of its own. -/
theorem ofAdjacency_of_rings :
    Confined [[1, 0, 1], [2], [0, 3], [3]] ∧
      ofAdjacency [[1, 0, 1], [2], [0, 3], [3]] =
        (depthsFrom [[1, 0, 1], [2], [0, 3], [3]] [] [] [0, 1, 2, 3]).1 := by
  have confined : Confined [[1, 0, 1], [2], [0, 3], [3]] := by decide
  exact ⟨confined, (ofAdjacency_eq_recursion _ confined).2⟩

example : (depthsFrom [[1, 0, 1], [2], [0, 3], [3]] [] [] [0, 1, 2, 3]).1 = [4, 3, 2, 1] := by
  cbv

end Depth
end SchemaAtlas
