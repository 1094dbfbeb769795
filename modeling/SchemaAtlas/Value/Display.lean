import SchemaAtlas.Number.Numeral
import SchemaAtlas.Number.Shortest
import SchemaAtlas.Text.Printable
import SchemaAtlas.Value.Basic

namespace SchemaAtlas

/-!
The text of a value in messages.  A text stands for itself on the outside and is quoted inside lists
and mappings, where everything that cannot be printed is escaped.  A whole number of more digits
than one may be read from is overlong, and no message shows a value that is or holds one.
-/

namespace Text

/-- A number in base sixteen with at least `width` digits. -/
def hex (width n : Nat) : Text :=
  let digits := Nat.toDigits 16 n
  List.replicate (width - digits.length) '0' ++ digits

def quotedChar (quote c : Char) : Text :=
  if c == quote || c == '\\' then ['\\', c]
  else if c == '\n' then "\\n".toList
  else if c == '\r' then "\\r".toList
  else if c == '\t' then "\\t".toList
  else if isPrintable c then [c]
  else if c.toNat ≤ 0xFF then "\\x".toList ++ hex 2 c.toNat
  else if c.toNat ≤ 0xFFFF then "\\u".toList ++ hex 4 c.toNat
  else "\\U".toList ++ hex 8 c.toNat

/-- A text in quotes.  Single quotes, unless the text holds single quotes only. -/
def quoted (t : Text) : Text :=
  let quote := if t.contains '\'' && !t.contains '"' then '"' else '\''
  quote :: t.flatMap (quotedChar quote) ++ [quote]

end Text

namespace Value

mutual

/-- The text of a value inside another one. -/
def inner : Value -> Text
  | .null => "None".toList
  | .bool true => "True".toList
  | .bool false => "False".toList
  | .int n => Text.ofInt n
  | .real x => x.format
  | .text t => Text.quoted t
  | .list items => '[' :: Text.join ", ".toList (innerItems items) ++ [']']
  | .mapping entries => '\x7b' :: Text.join ", ".toList (innerEntries entries) ++ ['\x7d']

def innerItems : List Value -> List Text
  | [] => []
  | v :: vs => inner v :: innerItems vs

def innerEntries : List (Text × Value) -> List Text
  | [] => []
  | (k, v) :: es => (Text.quoted k ++ ": ".toList ++ inner v) :: innerEntries es

end

def display : Value -> Text
  | .text t => t
  | v => inner v

mutual

/-- The value is, or holds, an overlong number. -/
def isOverlong : Value -> Bool
  | .int n => Numeral.digitLimit < (Text.ofNat n.natAbs).length
  | .list items => anyOverlong items
  | .mapping entries => anyEntryOverlong entries
  | _ => false

/-- Some item of a list is or holds such a number. -/
def anyOverlong : List Value -> Bool
  | [] => false
  | v :: vs => isOverlong v || anyOverlong vs

/-- Some entry of a mapping is or holds such a number. -/
def anyEntryOverlong : List (Text × Value) -> Bool
  | [] => false
  | (_, v) :: es => isOverlong v || anyEntryOverlong es

end

end Value
end SchemaAtlas
