import SchemaAtlas.Text.Slice
import SchemaAtlas.Token.Basic

namespace SchemaAtlas
namespace Token

/-!
Parentheses and commas in a list of tokens.
-/

/-- What a token adds to the depth of parentheses. -/
def nesting (t : Token) : Int :=
  if t.kind == .openParen then 1 else if t.kind == .closeParen then -1 else 0

/-- The number of tokens before the closing parenthesis that brings the depth back to zero. -/
def closingOffset? (depth : Int) : List Token -> Option Nat
  | [] => none
  | t :: rest =>
    if t.kind == .closeParen && depth - 1 == 0 then some 0
    else (closingOffset? (depth + nesting t) rest).map (· + 1)

def closingIndex? (tokens : List Token) (opening : Nat) : Option Nat :=
  (closingOffset? 0 (tokens.drop opening)).map (opening + ·)

/-- The same from a signed index.  A negative one counts from the end, and the search then
goes on from the beginning. -/
def closingFrom? (tokens : List Token) (opening : Int) : Option Int :=
  let ahead := if 0 ≤ opening then tokens.drop opening.toNat
    else tokens.drop (slicePosition tokens.length opening) ++ tokens
  (closingOffset? 0 ahead).map (opening + ·)

/-- A token put in front of the first of several groups. -/
def ontoFirstGroup (t : Token) : List (List Token) -> List (List Token)
  | [] => [[t]]
  | group :: groups => (t :: group) :: groups

/-- The pieces of a list of tokens between the commas at depth zero, empty ones included. -/
def pieces (depth : Int) : List Token -> List (List Token)
  | [] => [[]]
  | t :: rest =>
    if t.kind == .comma && depth == 0 then [] :: pieces depth rest
    else ontoFirstGroup t (pieces (depth + nesting t) rest)

/-- The non-empty groups of tokens between the commas at depth zero. -/
def groups (tokens : List Token) : List (List Token) :=
  (pieces 0 tokens).filter fun group => !group.isEmpty

end Token
end SchemaAtlas
