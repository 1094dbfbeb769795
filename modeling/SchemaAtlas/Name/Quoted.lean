import SchemaAtlas.Text.Blank

namespace SchemaAtlas
namespace Name

/-!
Names in quotes.  Three pairs of quotes enclose a name: two backticks, two double quotes, and an
opening with a closing bracket.
-/

/-- The character that closes a quoted name, if the given one opens it. -/
def closing? (c : Char) : Option Char :=
  if c == '\x60' then some '\x60'
  else if c == '"' then some '"'
  else if c == '[' then some ']'
  else none

/-- A text of at least two characters whose first opens and whose last closes a quoted name. -/
def isEnclosed : Text -> Bool
  | [] => false
  | [_] => false
  | c :: d :: rest => closing? c == some ((d :: rest).getLastD d)

/-- The name stands in quotes, outer white space apart. -/
def isQuoted (name : Text) : Bool :=
  isEnclosed (Text.trim name)

/-- The text without its first and its last character. -/
def withoutEnds (t : Text) : Text :=
  (t.drop 1).dropLast

/-- The name without outer white space, and without its quotes if it has any. -/
def stripQuotes (name : Text) : Text :=
  let bare := Text.trim name
  if isEnclosed bare then withoutEnds bare else bare

end Name
end SchemaAtlas
