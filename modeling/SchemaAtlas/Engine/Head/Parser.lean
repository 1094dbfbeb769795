import SchemaAtlas.Engine.Head.Queries
import SchemaAtlas.Statement.Parser

namespace SchemaAtlas
namespace Head

/-!
A small parser of statement heads, with which the program runs.

It knows the first statement of a text and nothing behind it: the word that the statement begins
with, or the one behind its named queries, and its pieces as tokens.  It is made for the heads of
ordinary statements and is no parser of SQL as a whole.  Scripts are read with any parser, so what
is said about them does not rest on this one; it is an example of a parser that keeps the promises
asked for.
-/

/-- The type of a statement with a first piece. -/
def typeOf (first : Piece) (pieces : List Piece) : Text :=
  if first.isWord (manipulationWords ++ definitionWords) then Text.upper first.text
  else if first.isWord ["WITH"] then (wordBehindName (grouped pieces)).getD "UNKNOWN".toList
  else "UNKNOWN".toList

def Piece.token (p : Piece) : SqlToken :=
  ⟨p.kind == .keyword, Text.upper p.text⟩

def statement? (t : Text) : Option SqlStatement :=
  (first? t).map fun first =>
    let pieces := opening t.length t
    ⟨typeOf first pieces, .ok (pieces.map Piece.token)⟩

def parser : SqlParser where
  parse t := .ok (statement? t).toList

end Head
end SchemaAtlas
