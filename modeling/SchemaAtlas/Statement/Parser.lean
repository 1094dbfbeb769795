import SchemaAtlas.Text.Basic

namespace SchemaAtlas

/-!
Parsers of SQL, as far as the kinds of statements are told by them.

A script is read with the help of a parser that stands outside of this library.  It makes statements
of a text or gives up with a message, and it may also give up later, when the tokens of a statement
are listed.  Everything about scripts is said for any such parser; what a result needs of it is
named here.
-/

/-- A token: whether it is a keyword, and its normal form. -/
structure SqlToken where
  isKeyword : Bool
  normalized : Text

/-- A parsed statement: the name of its type, and its tokens, unless they cannot be listed. -/
structure SqlStatement where
  type : Text
  tokens : Except Text (List SqlToken)

structure SqlParser where
  parse : Text -> Except Text (List SqlStatement)

namespace SqlParser

/-- The parser never gives up. -/
def Total (parser : SqlParser) : Prop :=
  forall text, exists statements, parser.parse text = .ok statements ∧
    forall s, s ∈ statements -> exists tokens, s.tokens = .ok tokens

/-- A text that begins with the keywords `INSERT INTO` begins with an insertion. -/
def KnowsInsertions (parser : SqlParser) : Prop :=
  forall rest, exists s more, parser.parse ("INSERT INTO ".toList ++ rest) = .ok (s :: more) ∧
    s.type = "INSERT".toList

end SqlParser
end SchemaAtlas
