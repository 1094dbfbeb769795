import SchemaAtlas.Failure
import SchemaAtlas.Name.Key
import SchemaAtlas.Table.Entity

namespace SchemaAtlas

/-!
References between tables.

A matcher says which tables a table refers to: by the names of its columns, or by its declared
foreign keys.  Tables are known by their positions in a list, and no table refers to itself.
-/

/-- A way to find references. -/
inductive Matcher where
  | suffix (ending : Text) (plurals : Bool)
  | foreignKey
deriving DecidableEq

namespace Matcher

/-- The reference keys of tables, position by position. -/
def keys (entities : List Entity) : List Text :=
  entities.map fun e => Name.referenceKey e.name

def positionsOf (key : Text) (keys : List Text) : List Nat :=
  (List.range keys.length).filter fun i => keys[i]? == some key

/-- The elements of a list without repetitions, in the order of their first appearance. -/
def distinct : List Text -> List Text
  | [] => []
  | k :: ks => k :: (distinct ks).filter (· != k)

/-- The positions that a key refers to: those of the key itself, then, where plurals count, those
of the plural names of which it is a singular form. -/
def targets (plurals : Bool) (keys : List Text) (key : Text) : List Nat :=
  positionsOf key keys ++
    if plurals then
      ((distinct keys).filter fun k => (Name.singularForms k).contains key).flatMap
        fun k => positionsOf k keys
    else []

/-- The key that a column name refers to by its ending.  A name of the ending
alone refers to nothing. -/
def columnKey? (ending name : Text) : Option Text :=
  if Text.endsWith (Text.lower name) ending && !ending.isEmpty then
    match Name.referenceKey (name.take (name.length - ending.length)) with
    | [] => none
    | c :: cs => some (c :: cs)
  else none

def referredKeys (m : Matcher) (e : Entity) : List Text :=
  match m with
  | .suffix ending _ => e.columns.filterMap fun c => columnKey? (Text.lower ending) c.name
  | .foreignKey => e.foreignKeys.map fun k => Name.referenceKey k.refTable

def followsPlurals : Matcher -> Bool
  | .suffix _ plurals => plurals
  | .foreignKey => false

/-- The positions, each one where it comes first and never that of the table itself. -/
def collect (self : Nat) (found : List Nat) : List Nat -> List Nat
  | [] => found
  | p :: ps => collect self (if p == self || found.contains p then found else found ++ [p]) ps

/-- The positions that the table at a position refers to. -/
def references (m : Matcher) (entities : List Entity) (self : Nat) (e : Entity) : List Nat :=
  collect self []
    ((m.referredKeys e).flatMap fun key => targets m.followsPlurals (keys entities) key)

/-- The positions that each table refers to. -/
def adjacency (m : Matcher) (entities : List Entity) : List (List Nat) :=
  entities.zipIdx.map fun entry => m.references entities entry.2 entry.1

/-- The names of the tables that each table refers to. -/
def dependencies (m : Matcher) (entities : List Entity) : Keyed (List Text) :=
  Keyed.ofPairs ((entities.zip (m.adjacency entities)).map fun entry =>
    (entry.1.name, entry.2.filterMap fun i => entities[i]?.map Entity.name))

end Matcher
end SchemaAtlas
