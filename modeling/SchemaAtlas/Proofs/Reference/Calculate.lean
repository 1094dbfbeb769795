import SchemaAtlas.Reference.Depth

namespace SchemaAtlas
namespace Depth

/-!
Depths are given to all tables and change nothing else of them.
-/

theorem length_adjacency (m : Matcher) (entities : List Entity) :
    (m.adjacency entities).length = entities.length := by
  rw [Matcher.adjacency, List.length_map, List.length_zipIdx]

theorem length_ofAdjacency (adjacency : List (List Nat)) :
    (ofAdjacency adjacency).length = adjacency.length := by
  rw [ofAdjacency, List.length_map, List.length_range]

theorem length_ofEntities (m : Matcher) (reverse : Bool) (entities : List Entity) :
    (ofEntities m reverse entities).length = entities.length := by
  have forward : (ofAdjacency (m.adjacency entities)).length = entities.length := by
    rw [length_ofAdjacency, length_adjacency]
  unfold ofEntities
  cases reverse with
  | false => exact forward
  | true => exact (List.length_map _).trans forward

theorem map_assign {β : Type} (f : Entity -> β)
    (blind : forall (e : Entity) (d : Int), f { e with depth := d } = f e) {depths : List Nat}
    {entities : List Entity} (enough : depths.length = entities.length) :
    (assign depths entities).map f = entities.map f := by
  induction entities generalizing depths with
  | nil => rfl
  | cons e rest ih =>
      cases depths with
      | nil => cases enough
      | cons d ds =>
          have later := ih (Nat.succ.inj enough)
          change f { e with depth := (d : Int) } :: (assign ds rest).map f = _
          rw [blind, later, List.map_cons]

theorem depth_assign {depths : List Nat} {entities : List Entity}
    (enough : depths.length = entities.length) :
    (assign depths entities).map Entity.depth = depths.map fun (d : Nat) => (d : Int) := by
  induction entities generalizing depths with
  | nil =>
      cases depths with
      | nil => rfl
      | cons d ds => cases enough
  | cons e rest ih =>
      cases depths with
      | nil => cases enough
      | cons d ds => exact congrArg (List.cons (d : Int)) (ih (Nat.succ.inj enough))

/-- Whatever does not look at the depth is the same before and after. -/
theorem map_calculate {β : Type} (f : Entity -> β)
    (blind : forall (e : Entity) (d : Int), f { e with depth := d } = f e) (m : Matcher)
    (reverse : Bool) (entities : List Entity) :
    (calculate m reverse entities).map f = entities.map f :=
  map_assign f blind (length_ofEntities m reverse entities)

end Depth
end SchemaAtlas
