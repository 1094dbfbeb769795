import SchemaAtlas.Text.Basic

namespace SchemaAtlas

/-!
Cutting a list by signed positions.  A negative position counts from the end of the list, and
positions outside the list are moved to its nearest end.
-/

/-- The place in a list of the given length that a signed position names. -/
def slicePosition (length : Nat) : Int -> Nat
  | .ofNat n => min n length
  | .negSucc n => length - (n + 1)

/-- The elements before a signed position. -/
def sliceTo {α : Type} (items : List α) (stop : Int) : List α :=
  items.take (slicePosition items.length stop)

/-- The elements from one signed position up to another. -/
def sliceBetween {α : Type} (items : List α) (start stop : Int) : List α :=
  (items.take (slicePosition items.length stop)).drop (slicePosition items.length start)

end SchemaAtlas
