import SchemaAtlas.Name.Qualified
import SchemaAtlas.Text.Phrase

namespace SchemaAtlas
namespace Name

/-!
Qualified names as phrases at the beginning of a text.
-/

def isPlainChar (c : Char) : Bool :=
  Text.isWordChar c || c == '$'

/-- One part of a name: a non-empty text in quotes, or a run of name characters,
which may stop early. -/
def partPhrase : Phrase Unit := do
  let _ <- Phrase.either (Phrase.enclosed '\x60' '\x60')
    (Phrase.either (Phrase.enclosed '"' '"')
      (Phrase.either (Phrase.enclosed '[' ']') (Phrase.runWhere isPlainChar)))
  Phrase.give ()

/-- A dot and a further part, with optional white space around the dot. -/
def furtherPart : Phrase Unit := do
  Phrase.blanks
  Phrase.char '.'
  Phrase.blanks
  partPhrase

def spelling : Phrase Text := do
  let spelled <- Phrase.spanned (do
    partPhrase
    Phrase.repeated furtherPart)
  Phrase.give spelled.1

end Name
end SchemaAtlas
