import SchemaAtlas.Text.Basic

namespace SchemaAtlas
namespace Text

/-!
White space: the blanks of ASCII, the four separators below the space, and the blanks of other
scripts.  The byte order mark is no blank.
-/

def blankIntervals : List (Nat × Nat) :=
  [(0x9, 0xD), (0x1C, 0x20), (0x85, 0x85), (0xA0, 0xA0), (0x1680, 0x1680), (0x2000, 0x200A),
   (0x2028, 0x2029), (0x202F, 0x202F), (0x205F, 0x205F), (0x3000, 0x3000)]

def isBlank (c : Char) : Bool :=
  inIntervals blankIntervals c

/-- The text without leading white space. -/
def trimStart (t : Text) : Text :=
  t.dropWhile isBlank

/-- The text without trailing white space. -/
def trimEnd (t : Text) : Text :=
  (t.reverse.dropWhile isBlank).reverse

/-- The text without outer white space. -/
def trim (t : Text) : Text :=
  trimEnd (trimStart t)

/-- The text holds nothing but white space. -/
def isBlankText (t : Text) : Bool :=
  t.all isBlank

/-- The words of a text: its longest pieces without white space. -/
def words (t : Text) : List Text :=
  (splitWhere isBlank t).filter fun piece => !piece.isEmpty

/-- The words of a text with one space between neighbours. -/
def oneSpaced (t : Text) : Text :=
  join [' '] (words t)

def withoutBlanks (t : Text) : Text :=
  t.filter fun c => !isBlank c

end Text
end SchemaAtlas
