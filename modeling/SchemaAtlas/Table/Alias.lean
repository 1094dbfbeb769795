import SchemaAtlas.Text.Phrase

namespace SchemaAtlas
namespace Table

/-!
Types of several words, written as one word before a definition is read.
-/

/-- A phrase of whole words, each in any mixture of cases. -/
def wordsPhrase : List Text -> Phrase Unit
  | [] => Phrase.give ()
  | [w] => Phrase.letters w
  | w :: ws => do
    Phrase.keyword w
    wordsPhrase ws

/-- A phrase of whole words that is part of no longer word. -/
def wholeWords (ws : List Text) (before : Option Char) : Phrase Unit := do
  Phrase.wordStart before
  wordsPhrase ws
  Phrase.wordEnd

/-- A character type without a limit, possibly in brackets. -/
def unlimitedText (before : Option Char) : Phrase Unit := do
  Phrase.either (Phrase.char '[') (Phrase.wordStart before)
  Phrase.optional (Phrase.letters ['n'])
  Phrase.letters "varchar".toList
  Phrase.optional (Phrase.char ']')
  Phrase.blanks
  Phrase.char '('
  Phrase.blanks
  Phrase.letters "max".toList
  Phrase.blanks
  Phrase.char ')'

/-- The clause that names the collation which is the default anyway. -/
def defaultCollation : Phrase Unit := do
  Phrase.blanks1
  Phrase.keyword "collate".toList
  Phrase.letters "pg_catalog.\"default\"".toList

/-- The text with every type of several words written as one word. -/
def unifyTypes (t : Text) : Text :=
  let t := Phrase.replaceAll (wholeWords ["timestamp", "with", "time", "zone"]) "TIMESTAMPTZ" t
  let t := Phrase.replaceAll (wholeWords ["timestamp", "without", "time", "zone"]) "TIMESTAMP" t
  let t := Phrase.replaceAll (wholeWords ["character", "varying"]) "VARCHAR" t
  let t := Phrase.replaceAll (wholeWords ["double", "precision"]) "DOUBLE" t
  let t := Phrase.replaceAll unlimitedText "TEXT" t
  Phrase.replaceAll (fun _ => defaultCollation) [] t

end Table
end SchemaAtlas
