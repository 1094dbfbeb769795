import SchemaAtlas.Text.Basic

namespace SchemaAtlas
namespace Name

/-!
Names in lower case with an underscore between words.  Words end at spaces, underscores, hyphens,
and between a small and a capital letter; all characters other than ASCII letters and digits
disappear.
-/

def isSmall (c : Char) : Bool :=
  'a' ≤ c && c ≤ 'z'

def isCapital (c : Char) : Bool :=
  'A' ≤ c && c ≤ 'Z'

/-- Underscores and hyphens become spaces. -/
def spaced (t : Text) : Text :=
  t.map fun c => if c == '_' || c == '-' then ' ' else c

/-- A space between each small letter and a capital one that follows it. -/
def apart : Text -> Text
  | [] => []
  | [c] => [c]
  | c :: d :: rest =>
    if isSmall c && isCapital d then c :: ' ' :: apart (d :: rest) else c :: apart (d :: rest)

/-- A character that a snake-case name is made from. -/
def isKept (c : Char) : Bool :=
  c.isAlphanum || c == ' '

def snakeWords (name : Text) : List Text :=
  (Text.splitOn ' ' (((apart (spaced name)).filter isKept).map Char.toLower)).filter
    fun word => !word.isEmpty

def snake (name : Text) : Text :=
  Text.join ['_'] (snakeWords name)

end Name
end SchemaAtlas
