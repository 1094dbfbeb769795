import SchemaAtlas.Text.Basic

namespace SchemaAtlas

/-!
Entries under names, in the order in which the names first came.  Setting a name that is already
there keeps its place and takes the new value; a new name goes to the end.
-/

/-- Entries under names, in the order of their first appearance. -/
abbrev Keyed (α : Type) := List (Text × α)

namespace Keyed

variable {α : Type}

def get? (key : Text) : Keyed α -> Option α
  | [] => none
  | (k, v) :: rest => if k == key then some v else get? key rest

def set (key : Text) (value : α) : Keyed α -> Keyed α
  | [] => [(key, value)]
  | (k, v) :: rest => if k == key then (k, value) :: rest else (k, v) :: set key value rest

/-- The entries with one name set, unless it is there already. -/
def setIfAbsent (key : Text) (value : α) (entries : Keyed α) : Keyed α :=
  match get? key entries with
  | some _ => entries
  | none => entries ++ [(key, value)]

def names (entries : Keyed α) : List Text :=
  entries.map Prod.fst

/-- The entries with others set over them, one after another. -/
def update (entries others : Keyed α) : Keyed α :=
  others.foldl (fun all entry => set entry.1 entry.2 all) entries

/-- The entries with the missing ones of `defaults` added. -/
def fill (defaults entries : Keyed α) : Keyed α :=
  defaults.foldl (fun all entry => setIfAbsent entry.1 entry.2 all) entries

/-- A list of pairs as entries: of pairs with one name, the first gives the place
and the last the value. -/
def ofPairs (pairs : List (Text × α)) : Keyed α :=
  update [] pairs

end Keyed
end SchemaAtlas
