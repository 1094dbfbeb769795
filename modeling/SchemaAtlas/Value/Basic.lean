import SchemaAtlas.Keyed
import SchemaAtlas.Number.Binary64

namespace SchemaAtlas

/-!
Values without a fixed shape: settings, the details of a failure, and report documents.
-/

/-- A value without a fixed shape. -/
inductive Value where
  | null
  | bool (b : Bool)
  | int (n : Int)
  | real (x : Binary64)
  | text (t : Text)
  | list (items : List Value)
  | mapping (entries : List (Text × Value))

instance : Inhabited Value := ⟨.null⟩

namespace Value

instance : Coe Text Value := ⟨.text⟩
instance : Coe Int Value := ⟨.int⟩
instance : Coe Bool Value := ⟨.bool⟩

def ofNat (n : Nat) : Value := .int n

def ofTexts (texts : List Text) : Value := .list (texts.map .text)

def ofOption {α : Type} (f : α -> Value) : Option α -> Value
  | none => .null
  | some a => f a

/-- The value counts as true: everything except nothing, zero and what is empty. -/
def isTruthy : Value -> Bool
  | .null => false
  | .bool b => b
  | .int n => n != 0
  | .real x => !x.isZero
  | .text t => !t.isEmpty
  | .list items => !items.isEmpty
  | .mapping entries => !entries.isEmpty

/-- The entries of a mapping; any other value has none. -/
def entries : Value -> Keyed Value
  | .mapping es => es
  | _ => []

/-- The items of a list; any other value has none. -/
def items : Value -> List Value
  | .list vs => vs
  | _ => []

def isMapping : Value -> Bool
  | .mapping _ => true
  | _ => false

def text? : Value -> Option Text
  | .text t => some t
  | _ => none

/-- The entry of a mapping under a name. -/
def get? (key : Text) (v : Value) : Option Value :=
  Keyed.get? key v.entries

/-- The entry of a mapping under a name, or the given value where there is none. -/
def getD (key : Text) (v fallback : Value) : Value :=
  (v.get? key).getD fallback

end Value
end SchemaAtlas
