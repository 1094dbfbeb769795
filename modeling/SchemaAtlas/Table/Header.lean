import SchemaAtlas.Name.Phrase

namespace SchemaAtlas
namespace Table

/-!
The header of a table definition.
-/

/-- The words that make a table temporary. -/
def temporary : Phrase Unit := do
  Phrase.optional
    (Phrase.either (Phrase.keyword "global".toList) (Phrase.keyword "local".toList))
  Phrase.letters "temp".toList
  Phrase.optional (Phrase.letters "orary".toList)
  Phrase.blanks1

/-- The condition that the table does not exist yet. -/
def unlessExists : Phrase Unit := do
  Phrase.keyword "if".toList
  Phrase.keyword "not".toList
  Phrase.keyword "exists".toList

/-- The form of a header up to the parenthesis that opens the body, with the name as spelled. -/
def headerForm : Phrase Text := do
  Phrase.keyword "create".toList
  Phrase.optional temporary
  Phrase.keyword "table".toList
  Phrase.optional unlessExists
  let name <- Name.spelling
  Phrase.blanks
  Phrase.char '('
  Phrase.give name

/-- The spelled name of the first table definition in a text, and its body from the
opening parenthesis on. -/
def header? (t : Text) : Option (Text × Text) :=
  (Phrase.search? headerForm t).map fun reading => (reading.1, '(' :: reading.2)

end Table
end SchemaAtlas
