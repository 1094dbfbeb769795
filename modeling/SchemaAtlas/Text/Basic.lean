namespace SchemaAtlas

/-!
Texts and the operations on them that every other module uses.

A text is the list of its code points.  Lengths, positions and cuts all count code points, so a
text needs no second index and every operation below is an operation on lists.
-/

/-- A text is the sequence of its code points. -/
abbrev Text := List Char

instance : Coe String Text := ⟨String.toList⟩

namespace Text

/-- The text as a string, for the outer layer. -/
def asString (t : Text) : String :=
  String.ofList t

/-- The character lies in one of the closed intervals of code points. -/
def inIntervals (table : List (Nat × Nat)) (c : Char) : Bool :=
  table.any fun interval => interval.1 ≤ c.toNat && c.toNat ≤ interval.2

/-- The texts one after another with a separator between neighbours. -/
def join (separator : Text) (parts : List Text) : Text :=
  separator.intercalate parts

/-- The pieces of a text between the characters that satisfy the test.  There is always one
piece more than there are such characters, and pieces may be empty. -/
def splitWhere (cut : Char -> Bool) : Text -> List Text
  | [] => [[]]
  | c :: rest =>
    if cut c then [] :: splitWhere cut rest
    else
      match splitWhere cut rest with
      | [] => [[c]]
      | piece :: pieces => (c :: piece) :: pieces

/-- The pieces of a text between the occurrences of one character. -/
def splitOn (separator : Char) (t : Text) : List Text :=
  splitWhere (· == separator) t

/-- What remains of a text after a given beginning. -/
def stripHead? : Text -> Text -> Option Text
  | [], t => some t
  | _ :: _, [] => none
  | p :: ps, c :: cs => if p == c then stripHead? ps cs else none

def startsWith (t head : Text) : Bool :=
  head.isPrefixOf t

def endsWith (t tail : Text) : Bool :=
  tail.isSuffixOf t

/-- The given text occurs somewhere in the text. -/
def has (needle : Text) : Text -> Bool
  | [] => needle.isEmpty
  | c :: rest => needle.isPrefixOf (c :: rest) || has needle rest

/-- Every occurrence of one character, written twice. -/
def double (q : Char) (t : Text) : Text :=
  t.flatMap fun c => if c == q then [q, q] else [c]

/-- Pairs of one character, read from the left, become single. -/
def collapse (q : Char) : Text -> Text
  | [] => []
  | [c] => [c]
  | c :: d :: rest =>
    if c == q && d == q then q :: collapse q rest else c :: collapse q (d :: rest)

/-- The text without the leading and trailing characters that satisfy the test. -/
def trimWhere (drop : Char -> Bool) (t : Text) : Text :=
  ((t.dropWhile drop).reverse.dropWhile drop).reverse

def ofNat (n : Nat) : Text :=
  Nat.toDigits 10 n

/-- An integer in decimal notation, a minus sign in front of a negative one. -/
def ofInt : Int -> Text
  | .ofNat n => ofNat n
  | .negSucc n => '-' :: ofNat (n + 1)

/-- A text between two single quotes, as messages show names. -/
def inApostrophes (t : Text) : Text :=
  '\'' :: t ++ ['\'']

end Text
end SchemaAtlas
