import Mathlib.Logic.Relation
import SchemaAtlas.Reference.Depth

namespace SchemaAtlas
namespace Depth

/-!
The invariant of the walk through a graph of references.

The finished tables have depths that already obey the law of depths, but for the references that
closed a cycle into an open visit.  Such a reference is owed a debt: the open table must end up
deeper than the finished one.  The debt is safe because the depth of every finished visit is handed
to the visit below it, so that some visit at or above the open table has heard of a depth at least
as great.
-/

/-- The table at one position refers to the table at another. -/
def Refers (references : List (List Nat)) (i j : Nat) : Prop :=
  j ∈ references.getD i []

/-- References lead from one table to another, by one step or more. -/
def Reaches (references : List (List Nat)) (i j : Nat) : Prop :=
  Relation.TransGen (Refers references) i j

/-- References stay inside the list, and no table refers to itself. -/
structure IsGraph (references : List (List Nat)) : Prop where
  inside : forall i j, Refers references i j -> j < references.length
  irreflexive : forall i, ¬ Refers references i i

def nodes (stack : List Frame) : List Nat :=
  stack.map Frame.node

/-- A visit at or above that of an open table has heard of a depth at least as great. -/
inductive Heard (depth node : Nat) : List Frame -> Prop where
  | here {f : Frame} {below : List Frame} (high : depth ≤ f.best)
      (stands : node ∈ nodes (f :: below)) :
      Heard depth node (f :: below)
  | deeper {f : Frame} {below : List Frame} (later : Heard depth node below) :
      Heard depth node (f :: below)

/-- What holds of a finished table and its depth.  Each reference goes to a finished table of
smaller depth, or it closed a cycle; then the other table has a greater depth, or is open and
will have one. -/
structure Settled (references : List (List Nat)) (memo : List (Nat × Nat)) (stack : List Frame)
    (i depth : Nat) : Prop where
  inside : i < references.length
  positive : 0 < depth
  followed : forall j, Refers references i j ->
    (exists d, memo.lookup j = some d ∧ d < depth) ∨
      Reaches references j i ∧
        ((exists d, memo.lookup j = some d ∧ depth < d) ∨ Heard depth j stack)
  least : depth = 1 ∨ exists j d, Refers references i j ∧ memo.lookup j = some d ∧ depth = d + 1

/-- What holds of an open visit.  `child` is the table of the visit just above it, whose depth is
still to come; every other reference followed so far is accounted for or closed a cycle. -/
structure Standing (references : List (List Nat)) (memo : List (Nat × Nat)) (child : Option Nat)
    (f : Frame) (below : List Frame) : Prop where
  inside : f.node < references.length
  unfinished : memo.lookup f.node = none
  fresh : f.node ∉ nodes below
  followed : exists done, references.getD f.node [] = done ++ f.pending ∧ forall j, j ∈ done ->
    child = some j ∨ (exists d, memo.lookup j = some d ∧ d ≤ f.best) ∨ j ∈ nodes below
  least : f.best = 0 ∨ exists j, Refers references f.node j ∧ memo.lookup j = some f.best
  leads : forall c, child = some c -> Refers references f.node c

/-- What holds of all open visits, from the innermost one down. -/
inductive Opened (references : List (List Nat)) (memo : List (Nat × Nat)) :
    Option Nat -> List Frame -> Prop where
  | nil (child : Option Nat) : Opened references memo child []
  | cons {child : Option Nat} {f : Frame} {below : List Frame}
      (stands : Standing references memo child f below)
        (rest : Opened references memo (some f.node) below) :
      Opened references memo child (f :: below)

/-- The invariant of a walk. -/
structure Sound (references : List (List Nat)) (w : Walk) : Prop where
  settled : forall i d, w.depth? i = some d -> Settled references w.memo w.stack i d
  opened : Opened references w.memo none w.stack

/-! Debts. -/

theorem Heard.mem_nodes {depth node : Nat} {stack : List Frame} (heard : Heard depth node stack) :
    node ∈ nodes stack := by
  induction heard with
  | here high stands => exact stands
  | deeper later ih => exact List.mem_cons_of_mem _ ih

theorem Heard.note {depth node : Nat} {stack : List Frame} (heard : Heard depth node stack)
    (more : Nat) : Heard depth node (note more stack) := by
  cases heard with
  | here high stands => exact Heard.here (Nat.le_trans high (Nat.le_max_left _ _)) stands
  | deeper later => exact Heard.deeper later

/-- A depth that is noted on top has been heard by every open visit. -/
theorem heard_note {depth node : Nat} {stack : List Frame} (opened : node ∈ nodes stack)
    {more : Nat} (high : depth ≤ more) : Heard depth node (note more stack) := by
  cases stack with
  | nil => cases opened
  | cons f below => exact Heard.here (Nat.le_trans high (Nat.le_max_right _ _)) opened

/-- A visit that is finished pays its own debts and hands on those of the visits below. -/
theorem Heard.finish {depth node : Nat} {f : Frame} {below : List Frame}
    (fresh : f.node ∉ nodes below) (heard : Heard depth node (f :: below)) :
    (node = f.node ∧ depth < f.best + 1) ∨
      node ≠ f.node ∧ Heard depth node (Depth.note (f.best + 1) below) := by
  cases heard with
  | here high stands =>
      by_cases same : node = f.node
      · exact Or.inl ⟨same, Nat.lt_succ_of_le high⟩
      · have lower : node ∈ nodes below := by
          rcases List.mem_cons.mp stands with equal | inBelow
          · exact absurd equal same
          · exact inBelow
        exact Or.inr ⟨same, heard_note lower (Nat.le_succ_of_le high)⟩
  | deeper later =>
      refine Or.inr ⟨?_, later.note _⟩
      intro same
      exact fresh (same ▸ later.mem_nodes)

/-- The innermost visit may follow a reference and hear of greater depths. -/
theorem Heard.follow {depth j node best better : Nat} {pending rest : List Nat} {below : List Frame}
    (heard : Heard depth j (⟨node, pending, best⟩ :: below)) (higher : best ≤ better) :
    Heard depth j (⟨node, rest, better⟩ :: below) := by
  cases heard with
  | here high stands => exact Heard.here (Nat.le_trans high higher) stands
  | deeper later => exact Heard.deeper later

/-! Carrying facts over to a later walk. -/

variable {references : List (List Nat)} {memo memo' : List (Nat × Nat)}

theorem Settled.carry {stack stack' : List Frame} {i depth : Nat}
    (settled : Settled references memo stack i depth)
    (kept : forall j d, memo.lookup j = some d -> memo'.lookup j = some d)
    (paid : forall j, Heard depth j stack ->
      (exists d, memo'.lookup j = some d ∧ depth < d) ∨ Heard depth j stack') :
    Settled references memo' stack' i depth where
  inside := settled.inside
  positive := settled.positive
  followed := by
    intro j refers
    rcases settled.followed j refers with
      ⟨d, found, smaller⟩ | ⟨reaches, ⟨d, found, greater⟩ | heard⟩
    · exact Or.inl ⟨d, kept j d found, smaller⟩
    · exact Or.inr ⟨reaches, Or.inl ⟨d, kept j d found, greater⟩⟩
    · exact Or.inr ⟨reaches, paid j heard⟩
  least := by
    rcases settled.least with one | ⟨j, d, refers, found, next⟩
    · exact Or.inl one
    · exact Or.inr ⟨j, d, refers, kept j d found, next⟩

theorem Standing.carry {child : Option Nat} {f : Frame} {below : List Frame}
    (stands : Standing references memo child f below)
    (kept : forall j d, memo.lookup j = some d -> memo'.lookup j = some d)
    (unfinished : memo'.lookup f.node = none) : Standing references memo' child f below where
  inside := stands.inside
  unfinished := unfinished
  fresh := stands.fresh
  followed := by
    rcases stands.followed with ⟨done, split, accounted⟩
    refine ⟨done, split, ?_⟩
    intro j member
    rcases accounted j member with isChild | ⟨d, found, low⟩ | lower
    · exact Or.inl isChild
    · exact Or.inr (Or.inl ⟨d, kept j d found, low⟩)
    · exact Or.inr (Or.inr lower)
  least := by
    rcases stands.least with zero | ⟨j, refers, found⟩
    · exact Or.inl zero
    · exact Or.inr ⟨j, refers, kept j _ found⟩
  leads := stands.leads

theorem Opened.carry {child : Option Nat} {stack : List Frame}
    (opened : Opened references memo child stack)
    (kept : forall j d, memo.lookup j = some d -> memo'.lookup j = some d)
    (unfinished : forall j, j ∈ nodes stack -> memo'.lookup j = none) :
    Opened references memo' child stack := by
  induction opened with
  | nil child => exact Opened.nil child
  | cons stands rest ih =>
      refine Opened.cons (stands.carry kept (unfinished _ List.mem_cons_self)) (ih ?_)
      intro j member
      exact unfinished j (List.mem_cons_of_mem _ member)

theorem Opened.unfinished {child : Option Nat} {stack : List Frame}
    (opened : Opened references memo child stack) (j : Nat) (member : j ∈ nodes stack) :
    memo.lookup j = none := by
  induction opened with
  | nil child => cases member
  | cons stands rest ih =>
      rcases List.mem_cons.mp member with rfl | lower
      · exact stands.unfinished
      · exact ih lower

/-- The table of a lower visit reaches that of a higher one, along the open visits. -/
theorem Opened.reaches {node : Nat} {below : List Frame}
    (opened : Opened references memo (some node) below) (j : Nat) (member : j ∈ nodes below) :
    Reaches references j node := by
  induction below generalizing node with
  | nil => cases member
  | cons g rest ih =>
      cases opened with
      | cons stands lower =>
          have step : Refers references g.node node := stands.leads node rfl
          rcases List.mem_cons.mp member with rfl | inRest
          · exact Relation.TransGen.single step
          · exact Relation.TransGen.tail (ih lower inRest) step

/-! One step of the walk. -/

theorem lookup_cons (node depth : Nat) (memo : List (Nat × Nat)) (j : Nat) :
    ((node, depth) :: memo).lookup j = if j = node then some depth else memo.lookup j := by
  rw [List.lookup_cons]
  by_cases same : j = node
  · simp [same]
  · have other : (j == node) = false := beq_eq_false_iff_ne.mpr same
    simp only [other, if_neg same]

/-- A new depth leaves the others as they are. -/
theorem lookup_kept {node : Nat} (fresh : memo.lookup node = none) (depth : Nat) (j d : Nat)
    (found : memo.lookup j = some d) : ((node, depth) :: memo).lookup j = some d := by
  have other : j ≠ node := by
    intro same
    rw [same, fresh] at found
    cases found
  rw [lookup_cons, if_neg other, found]

/-- A finished visit settles its table: every reference was followed, and those into open
visits are owed the new depth. -/
theorem Standing.settle {node best : Nat} {below : List Frame}
    (stands : Standing references memo none ⟨node, [], best⟩ below)
    (lower : Opened references memo (some node) below) :
    Settled references ((node, best + 1) :: memo) (note (best + 1) below) node (best + 1) where
  inside := stands.inside
  positive := Nat.succ_pos best
  followed := by
    intro j refers
    rcases stands.followed with ⟨done, split, accounted⟩
    have member : j ∈ done := by
      rw [Refers, split, List.append_nil] at refers
      exact refers
    rcases accounted j member with isChild | ⟨d, found, low⟩ | inBelow
    · cases isChild
    · exact Or.inl ⟨d, lookup_kept stands.unfinished _ j d found, Nat.lt_succ_of_le low⟩
    · exact Or.inr ⟨lower.reaches j inBelow, Or.inr (heard_note inBelow (Nat.le_refl _))⟩
  least := by
    rcases stands.least with zero | ⟨j, refers, found⟩
    · exact Or.inl (congrArg (· + 1) zero)
    · exact Or.inr ⟨j, best, refers, lookup_kept stands.unfinished _ j best found, rfl⟩

/-- The visit below takes note of the new depth of its child. -/
theorem Standing.hear {node depth : Nat} {g : Frame} {below : List Frame}
    (stands : Standing references memo (some node) g below) (fresh : memo.lookup node = none)
    (different : g.node ≠ node) :
    Standing references ((node, depth) :: memo) none { g with best := max g.best depth } below where
  inside := stands.inside
  unfinished := by
    rw [lookup_cons, if_neg different]
    exact stands.unfinished
  fresh := stands.fresh
  followed := by
    rcases stands.followed with ⟨done, split, accounted⟩
    refine ⟨done, split, ?_⟩
    intro j member
    rcases accounted j member with isChild | ⟨d, found, low⟩ | lower
    · refine Or.inr (Or.inl ⟨depth, ?_, Nat.le_max_right _ _⟩)
      rw [lookup_cons, if_pos (Option.some.inj isChild).symm]
    · exact Or.inr (Or.inl ⟨d, lookup_kept fresh depth j d found,
        Nat.le_trans low (Nat.le_max_left _ _)⟩)
    · exact Or.inr (Or.inr lower)
  least := by
    change max g.best depth = 0 ∨ exists j, Refers references g.node j ∧
      ((node, depth) :: memo).lookup j = some (max g.best depth)
    rcases Nat.le_total g.best depth with smaller | greater
    · rw [Nat.max_eq_right smaller]
      exact Or.inr ⟨node, stands.leads node rfl, by rw [lookup_cons, if_pos rfl]⟩
    · rw [Nat.max_eq_left greater]
      rcases stands.least with zero | ⟨j, refers, found⟩
      · exact Or.inl zero
      · exact Or.inr ⟨j, refers, lookup_kept fresh depth j _ found⟩
  leads := by simp

/-- Finishing the innermost visit. -/
theorem Sound.finish {node best cycles : Nat} {below : List Frame}
    (sound : Sound references ⟨memo, ⟨node, [], best⟩ :: below, cycles⟩) :
    Sound references ⟨(node, best + 1) :: memo, note (best + 1) below, cycles⟩ := by
  rcases sound with ⟨settled, opened⟩
  cases opened with
  | cons stands lower =>
      have kept := lookup_kept stands.unfinished (best + 1)
      constructor
      · intro i d known
        change ((node, best + 1) :: memo).lookup i = some d at known
        rw [lookup_cons] at known
        by_cases same : i = node
        · rw [if_pos same] at known
          cases known
          exact same ▸ stands.settle lower
        · rw [if_neg same] at known
          refine (settled i d known).carry kept ?_
          intro j heard
          rcases heard.finish stands.fresh with ⟨isNode, greater⟩ | ⟨_, still⟩
          · exact Or.inl ⟨best + 1, by rw [lookup_cons, if_pos isNode], greater⟩
          · exact Or.inr still
      · cases lower with
        | nil child => exact Opened.nil none
        | @cons _ g rest standsBelow lowest =>
            have different : g.node ≠ node := fun same => stands.fresh (same ▸ List.mem_cons_self)
            refine Opened.cons (standsBelow.hear stands.unfinished different) (lowest.carry kept ?_)
            intro j member
            have other : j ≠ node := fun same => stands.fresh (same ▸ List.mem_cons_of_mem _ member)
            rw [lookup_cons, if_neg other]
            exact lowest.unfinished j member

theorem Standing.refers {child : Option Nat} {node next best : Nat} {pending : List Nat}
    {below : List Frame}
    (stands : Standing references memo child ⟨node, next :: pending, best⟩ below) :
    Refers references node next := by
  rcases stands.followed with ⟨done, split, _⟩
  rw [Refers, split]
  exact List.mem_append_right _ List.mem_cons_self

/-- The innermost visit after one more reference, which is accounted for or closed a cycle. -/
theorem Standing.follow {node next best better : Nat} {pending : List Nat} {below : List Frame}
    {child : Option Nat}
    (stands : Standing references memo none ⟨node, next :: pending, best⟩ below)
    (higher : best ≤ better)
    (accounted : child = some next ∨ (exists d, memo.lookup next = some d ∧ d ≤ better) ∨
      next ∈ nodes below)
    (least : better = best ∨ memo.lookup next = some better)
    (onlyNext : forall c, child = some c -> c = next) :
    Standing references memo child ⟨node, pending, better⟩ below := by
  rcases stands.followed with ⟨done, split, before⟩
  refine ⟨stands.inside, stands.unfinished, stands.fresh, ?_, ?_, ?_⟩
  · refine ⟨done ++ [next], by rw [split, List.append_assoc, List.singleton_append], ?_⟩
    intro j member
    rcases List.mem_append.mp member with earlier | isNext
    · rcases before j earlier with isChild | ⟨d, found, low⟩ | lower
      · cases isChild
      · exact Or.inr (Or.inl ⟨d, found, Nat.le_trans low higher⟩)
      · exact Or.inr (Or.inr lower)
    · rw [List.mem_singleton.mp isNext]
      exact accounted
  · rcases least with same | found
    · rw [same]
      exact stands.least
    · exact Or.inr ⟨next, stands.refers, found⟩
  · intro c isChild
    rw [onlyNext c isChild]
    exact stands.refers

/-- Following a reference to a finished table. -/
theorem Sound.followFinished {node next best depth cycles : Nat} {pending : List Nat}
    {below : List Frame}
    (sound : Sound references ⟨memo, ⟨node, next :: pending, best⟩ :: below, cycles⟩)
    (found : memo.lookup next = some depth) :
    Sound references ⟨memo, ⟨node, pending, max best depth⟩ :: below, cycles⟩ := by
  rcases sound with ⟨settled, opened⟩
  cases opened with
  | cons stands lower =>
      have higher : best ≤ max best depth := Nat.le_max_left _ _
      constructor
      · intro i d known
        refine (settled i d known).carry (fun _ _ same => same) ?_
        intro j heard
        exact Or.inr (heard.follow higher)
      · refine Opened.cons (stands.follow higher ?_ ?_ (by simp)) lower
        · exact Or.inr (Or.inl ⟨depth, found, Nat.le_max_right _ _⟩)
        · rcases Nat.le_total best depth with smaller | greater
          · rw [Nat.max_eq_right smaller]
            exact Or.inr found
          · exact Or.inl (Nat.max_eq_left greater)

/-- Following a reference that closes a cycle. -/
theorem Sound.followOpen (graph : IsGraph references) {node next best cycles more : Nat}
    {pending : List Nat} {below : List Frame}
    (sound : Sound references ⟨memo, ⟨node, next :: pending, best⟩ :: below, cycles⟩)
    (isOpen : next ∈ nodes (⟨node, next :: pending, best⟩ :: below)) :
    Sound references ⟨memo, ⟨node, pending, best⟩ :: below, more⟩ := by
  rcases sound with ⟨settled, opened⟩
  cases opened with
  | cons stands lower =>
      have lowerOpen : next ∈ nodes below := by
        rcases List.mem_cons.mp isOpen with isNode | inBelow
        · have refers := stands.refers
          rw [isNode] at refers
          exact absurd refers (graph.irreflexive node)
        · exact inBelow
      constructor
      · intro i d known
        refine (settled i d known).carry (fun _ _ same => same) ?_
        intro j heard
        exact Or.inr (heard.follow (Nat.le_refl _))
      · exact Opened.cons
          (stands.follow (Nat.le_refl _) (Or.inr (Or.inr lowerOpen)) (Or.inl rfl) (by simp)) lower

/-- Opening the visit of a table that was not seen before. -/
theorem Sound.openNext {node next best cycles : Nat} {pending : List Nat} {below : List Frame}
    (sound : Sound references ⟨memo, ⟨node, next :: pending, best⟩ :: below, cycles⟩)
    (inside : next < references.length) (fresh : memo.lookup next = none)
    (closed : next ∉ nodes (⟨node, next :: pending, best⟩ :: below)) :
    Sound references
      ⟨memo, ⟨next, references.getD next [], 0⟩ :: ⟨node, pending, best⟩ :: below, cycles⟩ := by
  rcases sound with ⟨settled, opened⟩
  cases opened with
  | cons stands lower =>
      constructor
      · intro i d known
        refine (settled i d known).carry (fun _ _ same => same) ?_
        intro j heard
        exact Or.inr (Heard.deeper (heard.follow (Nat.le_refl _)))
      · refine Opened.cons ⟨inside, fresh, closed, ⟨[], rfl, by simp⟩, Or.inl rfl, by simp⟩ ?_
        refine Opened.cons (stands.follow (Nat.le_refl _) (Or.inl rfl) (Or.inl rfl) ?_) lower
        intro c isChild
        exact (Option.some.inj isChild).symm

/-! The whole walk. -/

theorem isOpen_eq_true_iff (w : Walk) (node : Nat) :
    w.isOpen node = true ↔ node ∈ nodes w.stack := by
  simp only [Walk.isOpen, nodes, List.any_eq_true, beq_iff_eq, List.mem_map]

/-- A walk that runs to its end stays sound, closes all visits and loses no table. -/
theorem sound_run (graph : IsGraph references) (w : Walk) (sound : Sound references w) :
    Sound references (run references w) ∧ (run references w).stack = [] ∧
      forall i, w.isSeen i = true -> (run references w).isSeen i = true := by
  fun_induction run references w with
  | case1 memo cycles => exact ⟨sound, rfl, fun _ seen => seen⟩
  | case2 memo node best below cycles ih =>
      rcases ih sound.finish with ⟨last, done, kept⟩
      exact ⟨last, done, fun i seen => kept i (isSeen_finish i seen)⟩
  | case3 memo node next pending best below cycles depth found ih =>
      rcases ih (sound.followFinished found) with ⟨last, done, kept⟩
      exact ⟨last, done, fun i seen => kept i ((isSeen_follow i).trans seen)⟩
  | case4 memo node next pending best below cycles found isOpen ih =>
      rcases ih (sound.followOpen graph ((isOpen_eq_true_iff _ _).mp isOpen)) with
        ⟨last, done, kept⟩
      exact ⟨last, done, fun i seen => kept i ((isSeen_follow i).trans seen)⟩
  | case5 memo node next pending best below cycles found closed inside ih =>
      have notOpen := fun member => closed ((isOpen_eq_true_iff _ _).mpr member)
      rcases ih (sound.openNext inside found notOpen) with ⟨last, done, kept⟩
      exact ⟨last, done, fun i seen => kept i (isSeen_open _ i seen)⟩
  | case6 memo node next pending best below cycles found closed outside ih =>
      cases sound.opened with
      | cons stands lower => exact absurd (graph.inside _ _ stands.refers) outside

/-- A walk between visits: it is sound, and no visit is open. -/
structure Rests (references : List (List Nat)) (w : Walk) : Prop where
  sound : Sound references w
  idle : w.stack = []

/-- Visiting a table finishes it and leaves no table unfinished that was finished. -/
theorem Rests.visit (graph : IsGraph references) {w : Walk} (rests : Rests references w)
    {root : Nat} (inside : root < references.length) :
    Rests references (visit references w root) ∧
      forall i, i = root ∨ (w.depth? i).isSome = true ->
        ((Depth.visit references w root).depth? i).isSome = true := by
  unfold Depth.visit
  cases known : w.depth? root with
  | some d =>
      refine ⟨rests, ?_⟩
      rintro i (rfl | finished)
      · rw [known]
        rfl
      · exact finished
  | none =>
      rcases w with ⟨memo, stack, cycles⟩
      cases rests.idle
      have start : Sound references ⟨memo, [⟨root, references.getD root [], 0⟩], cycles⟩ := by
        constructor
        · intro i d found
          refine (rests.sound.settled i d found).carry (fun _ _ same => same) ?_
          intro j heard
          cases heard
        · refine Opened.cons ⟨inside,
            known, by simp [nodes], ⟨[], rfl, by simp⟩, Or.inl rfl, by simp⟩ ?_
          exact Opened.nil _
      rcases sound_run graph _ start with ⟨sound, idle, kept⟩
      refine ⟨⟨sound, idle⟩, ?_⟩
      intro i reason
      have seenBefore : (⟨memo, [⟨root, references.getD root [], 0⟩], cycles⟩ : Walk).isSeen i =
          true := by
        rcases reason with rfl | finished
        · simp [Walk.isSeen, Walk.isOpen]
        · exact Bool.or_eq_true_iff.mpr (Or.inl finished)
      have seen := kept i seenBefore
      rcases Bool.or_eq_true_iff.mp seen with finished | isOpen
      · exact finished
      · rw [isOpen_eq_true_iff, idle] at isOpen
        cases isOpen

/-- Visiting some tables one after another finishes them all. -/
theorem Rests.foldl_visit (graph : IsGraph references) {w : Walk} (rests : Rests references w)
    (roots : List Nat) (inside : forall root, root ∈ roots -> root < references.length) :
    Rests references (roots.foldl (Depth.visit references) w) ∧
      forall i, i ∈ roots ∨ (w.depth? i).isSome = true ->
        ((roots.foldl (Depth.visit references) w).depth? i).isSome = true := by
  induction roots generalizing w with
  | nil =>
      refine ⟨rests, ?_⟩
      rintro i (member | finished)
      · cases member
      · exact finished
  | cons root roots ih =>
      rcases rests.visit graph (inside root List.mem_cons_self) with ⟨next, finished⟩
      rcases ih next fun other member => inside other (List.mem_cons_of_mem _ member) with
        ⟨last, all⟩
      refine ⟨last, ?_⟩
      rintro i (member | before)
      · rcases List.mem_cons.mp member with isRoot | later
        · exact all i (Or.inr (finished i (Or.inl isRoot)))
        · exact all i (Or.inl later)
      · exact all i (Or.inr (finished i (Or.inr before)))

/-- The walk through all tables comes to rest with every one of them finished. -/
theorem rests_walk (graph : IsGraph references) :
    Rests references (walk references) ∧
      forall i, i < references.length -> ((walk references).depth? i).isSome = true := by
  have nothing : forall i d, (⟨[], [], 0⟩ : Walk).depth? i = some d ->
      Settled references [] [] i d := by
    intro i d found
    cases found
  have start : Rests references ⟨[], [], 0⟩ := ⟨⟨nothing, Opened.nil none⟩, rfl⟩
  rcases start.foldl_visit graph (List.range references.length)
    fun root member => List.mem_range.mp member with ⟨rests, all⟩
  exact ⟨rests, fun i inside => all i (Or.inl (List.mem_range.mpr inside))⟩

end Depth
end SchemaAtlas
