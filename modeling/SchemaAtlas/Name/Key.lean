import SchemaAtlas.Text.Blank
import SchemaAtlas.Text.Case

namespace SchemaAtlas
namespace Name

/-!
Keys by which names are compared when references between tables are sought, and the singular
forms under which a table may be referred to.
-/

/-- A character that only separates the words of a name. -/
def isSeparator (c : Char) : Bool :=
  Text.isBlank c || c == '_' || c == '-'

/-- The name without differences of case and without separators. -/
def referenceKey (name : Text) : Text :=
  (Text.fold name).filter fun c => !isSeparator c

/-- The text in place of an ending, where the name is longer than the ending. -/
def replaceEnding (ending replacement name : Text) : List Text :=
  if Text.endsWith name ending && ending.length < name.length then
    [name.take (name.length - ending.length) ++ replacement]
  else []

/-- The singular forms of a plural name, the longest ending first. -/
def singularForms (name : Text) : List Text :=
  replaceEnding "ies".toList "y".toList name ++ replaceEnding "es".toList [] name
    ++ replaceEnding "s".toList [] name

end Name
end SchemaAtlas
