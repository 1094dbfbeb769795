import SchemaAtlas.Reference.Matcher

namespace SchemaAtlas
namespace Depth

/-!
Depths of tables: one for a table that refers to nothing, and one more than the deepest table that
it refers to for any other.

Tables are visited depth first, in the order of the list.  A reference back to a table whose visit
is not finished closes a cycle and adds nothing.  The visit keeps its own stack of open tables, so
chains of any length are followed.
-/

/-- An open visit: the table, the references still to follow, and the greatest depth met so far. -/
structure Frame where
  node : Nat
  pending : List Nat
  best : Nat
deriving DecidableEq

/-- A walk: the depths of finished tables, the open visits with the innermost one first, and the
number of references that closed a cycle. -/
structure Walk where
  memo : List (Nat × Nat)
  stack : List Frame
  cycles : Nat
deriving DecidableEq

def Walk.depth? (w : Walk) (node : Nat) : Option Nat :=
  w.memo.lookup node

def Walk.isOpen (w : Walk) (node : Nat) : Bool :=
  w.stack.any fun f => f.node == node

/-- A table is finished or its visit is open. -/
def Walk.isSeen (w : Walk) (node : Nat) : Bool :=
  (w.depth? node).isSome || w.isOpen node

/-- The number of tables that the walk has not come to. -/
def unseen (count : Nat) (w : Walk) : Nat :=
  (List.range count).countP fun i => !w.isSeen i

/-- The work left in the open visits. -/
def openWork : List Frame -> Nat
  | [] => 0
  | f :: rest => f.pending.length + 1 + openWork rest

/-- The innermost visit takes note of a depth. -/
def note (depth : Nat) : List Frame -> List Frame
  | [] => []
  | f :: rest => { f with best := max f.best depth } :: rest

theorem openWork_note (depth : Nat) (stack : List Frame) :
    openWork (note depth stack) = openWork stack := by
  cases stack with
  | nil => rfl
  | cons f rest => rfl

/-- A visit with one reference less leaves less work. -/
theorem openWork_follow (node next best best' : Nat) (pending : List Nat) (below : List Frame) :
    openWork (⟨node, pending, best'⟩ :: below) <
      openWork (⟨node, next :: pending, best⟩ :: below) := by
  simp only [openWork, List.length_cons]
  omega

/-- A visit that is finished leaves less work. -/
theorem openWork_finish (frame : Frame) (below : List Frame) :
    openWork below < openWork (frame :: below) := by
  simp only [openWork]
  omega

theorem any_note (depth : Nat) (stack : List Frame) (node : Nat) :
    (note depth stack).any (fun f => f.node == node) = stack.any fun f => f.node == node := by
  cases stack <;> simp [note]

theorem unseen_le_of_isSeen {count : Nat} {v w : Walk}
    (kept : forall i, v.isSeen i = true -> w.isSeen i = true) :
    unseen count w ≤ unseen count v := by
  apply List.countP_mono_left
  intro i _ unseenInW
  cases seen : v.isSeen i with
  | false => rfl
  | true => simp [kept i seen] at unseenInW

theorem countP_lt_of_imp {p q : Nat -> Bool} {i : Nat} (xs : List Nat)
    (kept : forall j, q j = true -> p j = true) (member : i ∈ xs)
    (here : p i = true) (gone : q i = false) : xs.countP q < xs.countP p := by
  induction xs with
  | nil => simp at member
  | cons x rest ih =>
    have mono : rest.countP q ≤ rest.countP p := List.countP_mono_left fun j _ => kept j
    rcases List.mem_cons.mp member with same | inRest
    · subst same
      simp only [List.countP_cons, here, gone]
      simp
      omega
    · have smaller := ih inRest
      simp only [List.countP_cons]
      cases qx : q x with
      | false => simp; omega
      | true => simp [kept x qx]; omega

theorem unseen_lt_of_isSeen {count node : Nat} {v w : Walk} (inside : node < count)
    (kept : forall i, v.isSeen i = true -> w.isSeen i = true)
    (fresh : v.isSeen node = false) (seen : w.isSeen node = true) :
    unseen count w < unseen count v := by
  apply countP_lt_of_imp (List.range count) (i := node)
  · intro j unseenInW
    cases seenInV : v.isSeen j with
    | false => rfl
    | true => simp [kept j seenInV] at unseenInW
  · exact List.mem_range.mpr inside
  · simp [fresh]
  · simp [seen]

/-- Following a reference without opening a visit leaves the same tables seen. -/
theorem isSeen_follow {memo : List (Nat × Nat)} {node best best' cycles cycles' : Nat}
    {pending pending' : List Nat} {below : List Frame} (i : Nat) :
    (⟨memo, ⟨node, pending', best'⟩ :: below, cycles'⟩ : Walk).isSeen i =
      (⟨memo, ⟨node, pending, best⟩ :: below, cycles⟩ : Walk).isSeen i := by
  simp [Walk.isSeen, Walk.isOpen, Walk.depth?]

/-- Finishing a visit loses no table. -/
theorem isSeen_finish {memo : List (Nat × Nat)} {node best cycles : Nat}
    {pending : List Nat} {below : List Frame} (i : Nat)
    (seen : (⟨memo, ⟨node, pending, best⟩ :: below, cycles⟩ : Walk).isSeen i = true) :
    (⟨(node, best + 1) :: memo, note (best + 1) below, cycles⟩ : Walk).isSeen i = true := by
  simp only [Walk.isSeen, Walk.isOpen, Walk.depth?, any_note, List.lookup_cons] at seen ⊢
  by_cases same : i = node
  · simp [same]
  · have other : (i == node) = false := by simpa using same
    have flipped : (node == i) = false := by simpa using Ne.symm same
    simpa [other, flipped] using seen

/-- Opening a visit loses no table. -/
theorem isSeen_open {memo : List (Nat × Nat)} {node best cycles : Nat}
    {pending pending' : List Nat} {below : List Frame} (frame : Frame) (i : Nat)
    (seen : (⟨memo, ⟨node, pending, best⟩ :: below, cycles⟩ : Walk).isSeen i = true) :
    (⟨memo, frame :: ⟨node, pending', best⟩ :: below, cycles⟩ : Walk).isSeen i = true := by
  simp only [Walk.isSeen, Walk.isOpen, Walk.depth?, List.any_cons, Bool.or_eq_true] at seen ⊢
  rcases seen with finished | openNow
  · exact Or.inl finished
  · exact Or.inr (Or.inr openNow)

/-- The walk until no visit is open.  Each step follows one reference or finishes one visit. -/
def run (adjacency : List (List Nat)) (w : Walk) : Walk :=
  match w with
  | ⟨memo, [], cycles⟩ => ⟨memo, [], cycles⟩
  | ⟨memo, ⟨node, [], best⟩ :: below, cycles⟩ =>
    run adjacency ⟨(node, best + 1) :: memo, note (best + 1) below, cycles⟩
  | ⟨memo, ⟨node, next :: pending, best⟩ :: below, cycles⟩ =>
    match found : memo.lookup next with
    | some depth => run adjacency ⟨memo, ⟨node, pending, max best depth⟩ :: below, cycles⟩
    | none =>
      if (⟨memo, ⟨node, next :: pending, best⟩ :: below, cycles⟩ : Walk).isOpen next then
        run adjacency ⟨memo, ⟨node, pending, best⟩ :: below, cycles + 1⟩
      else if next < adjacency.length then
        run adjacency
          ⟨memo, ⟨next, adjacency.getD next [], 0⟩ :: ⟨node, pending, best⟩ :: below, cycles⟩
      else run adjacency ⟨memo, ⟨node, pending, best⟩ :: below, cycles⟩
termination_by (unseen adjacency.length w, openWork w.stack)
decreasing_by
  · apply Prod.Lex.right'
    · exact unseen_le_of_isSeen isSeen_finish
    · show openWork (note (best + 1) below) < _
      rw [openWork_note]
      exact openWork_finish _ _
  · apply Prod.Lex.right'
    · exact unseen_le_of_isSeen fun i seen => (isSeen_follow i).trans seen
    · exact openWork_follow _ _ _ _ _ _
  · apply Prod.Lex.right'
    · exact unseen_le_of_isSeen fun i seen => (isSeen_follow i).trans seen
    · exact openWork_follow _ _ _ _ _ _
  · rename_i notOpen inside
    apply Prod.Lex.left
    apply unseen_lt_of_isSeen inside (isSeen_open _)
    · simp only [Walk.isSeen, Walk.depth?, found]
      simpa using notOpen
    · simp [Walk.isSeen, Walk.isOpen]
  · apply Prod.Lex.right'
    · exact unseen_le_of_isSeen fun i seen => (isSeen_follow i).trans seen
    · exact openWork_follow _ _ _ _ _ _

/-- The walk with one table visited, unless it is finished already. -/
def visit (adjacency : List (List Nat)) (w : Walk) (root : Nat) : Walk :=
  match w.depth? root with
  | some _ => w
  | none => run adjacency { w with stack := [⟨root, adjacency.getD root [], 0⟩] }

/-- The walk through all tables in order. -/
def walk (adjacency : List (List Nat)) : Walk :=
  (List.range adjacency.length).foldl (visit adjacency) ⟨[], [], 0⟩

def ofAdjacency (adjacency : List (List Nat)) : List Nat :=
  let done := walk adjacency
  (List.range adjacency.length).map fun i => (done.depth? i).getD 0

/-- The depths counted from the deepest table. -/
def reversed (depths : List Nat) : List Nat :=
  depths.map fun d => depths.foldl max 0 - d

/-- The depths of tables, counted from either end. -/
def ofEntities (m : Matcher) (reverse : Bool) (entities : List Entity) : List Nat :=
  let depths := ofAdjacency (m.adjacency entities)
  if reverse then reversed depths else depths

def assign (depths : List Nat) (entities : List Entity) : List Entity :=
  entities.zipWith (fun e (d : Nat) => { e with depth := d }) depths

/-- The tables with their depths by the references of a matcher. -/
def calculate (m : Matcher) (reverse : Bool) (entities : List Entity) : List Entity :=
  assign (ofEntities m reverse entities) entities

/-- The tables in the order of their depths; tables of equal depth keep their order. -/
def sort (descending : Bool) (entities : List Entity) : List Entity :=
  entities.mergeSort fun a b => if descending then b.depth ≤ a.depth else a.depth ≤ b.depth

end Depth
end SchemaAtlas
