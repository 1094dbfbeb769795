import SchemaAtlas.Text.Case.Context
import SchemaAtlas.Text.Case.Fold
import SchemaAtlas.Text.Case.Lower
import SchemaAtlas.Text.Case.Upper

namespace SchemaAtlas
namespace Text

/-!
Case mappings of whole texts.

`upper`, `lower` and `fold` map every character to its full form, which may be longer than one
character.  Only the lower-case form of one letter depends on its surroundings: a capital sigma
at the end of a word becomes a final sigma.

`sameLetter` is a narrower relation, the one by which keywords are recognised: it equates the
two cases of an ASCII letter, and the four letters of other scripts that fold onto one.
-/

def upperChar (c : Char) : Text :=
  if c.toNat < 0x80 then [c.toUpper] else mapCase upperRuns upperExpansions c

/-- The lower-case form of one character, wherever it stands. -/
def lowerChar (c : Char) : Text :=
  if c.toNat < 0x80 then [c.toLower] else mapCase lowerRuns lowerExpansions c

def foldChar (c : Char) : Text :=
  if c.toNat < 0x80 then [c.toLower] else mapCase foldRuns foldExpansions c

def upper (t : Text) : Text :=
  t.flatMap upperChar

/-- The first character that is not looked through has case. -/
def meetsCased (t : Text) : Bool :=
  match t.dropWhile isCaseIgnorable with
  | [] => false
  | c :: _ => isCased c

/-- The text in lower case, after the characters `before` (the nearest one first). -/
def lowerAfter : Text -> Text -> Text
  | _, [] => []
  | before, c :: rest =>
    (if c == 'Σ' then
      (if meetsCased before && !meetsCased rest then ['ς'] else ['σ'])
    else lowerChar c) ++ lowerAfter (c :: before) rest

def lower (t : Text) : Text :=
  lowerAfter [] t

/-- The text with every difference of case erased. -/
def fold (t : Text) : Text :=
  t.flatMap foldChar

/-- The ASCII lower-case letter by which keywords compare a character. -/
def letterKey (c : Char) : Char :=
  if c == '\u0130' || c == '\u0131' then 'i'
  else if c == '\u017f' then 's'
  else if c == '\u212a' then 'k'
  else c.toLower

/-- The two characters are the same letter, up to case. -/
def sameLetter (a b : Char) : Bool :=
  letterKey a == letterKey b

/-- A letter of the ASCII alphabet, up to case. -/
def isLatinLetter (c : Char) : Bool :=
  (letterKey c).isAlpha

end Text
end SchemaAtlas
