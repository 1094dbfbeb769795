import SchemaAtlas.Value.Display

namespace SchemaAtlas
namespace Value

/-!
Values as JSON documents.  Members keep their order, each stands on a line of its own with two
spaces per level, and characters outside ASCII are written as they are.
-/

def jsonChar (c : Char) : Text :=
  if c == '"' then "\\\"".toList
  else if c == '\\' then "\\\\".toList
  else if c == '\n' then "\\n".toList
  else if c == '\r' then "\\r".toList
  else if c == '\t' then "\\t".toList
  else if c == '\x08' then "\\b".toList
  else if c == '\x0c' then "\\f".toList
  else if c.toNat < 0x20 then "\\u".toList ++ Text.hex 4 c.toNat
  else [c]

def jsonString (t : Text) : Text :=
  '"' :: t.flatMap jsonChar ++ ['"']

/-- A JSON number for a binary one; infinities have names. -/
def jsonReal : Binary64 -> Text
  | .infinite negative => Binary64.sign negative ++ "Infinity".toList
  | x => x.format

/-- A line break and the spaces of one level. -/
def jsonBreak (level : Nat) : Text :=
  '\n' :: List.replicate (2 * level) ' '

/-- Members between brackets, one on each line; brackets without members stand together. -/
def jsonBlock (opening closing : Char) (level : Nat) : List Text -> Text
  | [] => [opening, closing]
  | members =>
    opening :: jsonBreak (level + 1) ++ Text.join (',' :: jsonBreak (level + 1)) members
      ++ jsonBreak level ++ [closing]

mutual

/-- A value as JSON at one level of nesting. -/
def jsonAt (level : Nat) : Value -> Text
  | .null => "null".toList
  | .bool true => "true".toList
  | .bool false => "false".toList
  | .int n => Text.ofInt n
  | .real x => jsonReal x
  | .text t => jsonString t
  | .list items => jsonBlock '[' ']' level (jsonItems (level + 1) items)
  | .mapping entries => jsonBlock '\x7b' '\x7d' level (jsonEntries (level + 1) entries)

def jsonItems (level : Nat) : List Value -> List Text
  | [] => []
  | v :: vs => jsonAt level v :: jsonItems level vs

def jsonEntries (level : Nat) : List (Text × Value) -> List Text
  | [] => []
  | (k, v) :: es => (jsonString k ++ ": ".toList ++ jsonAt level v) :: jsonEntries level es

end

def toJson (v : Value) : Text :=
  jsonAt 0 v

end Value
end SchemaAtlas
