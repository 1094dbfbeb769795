import SchemaAtlas.Engine.Head.Piece

namespace SchemaAtlas
namespace Head

/-!
The opening of a text: the pieces of its first statement.

A semicolon ends the statement unless it stands in parentheses or in a block.  Blocks are opened by
`BEGIN`, and in a definition also by the words that begin a declaration, a condition or a loop.
-/

/-- How deep a place of a statement lies: the level of parentheses and blocks, the number of open
blocks, whether a block was opened by the last piece, whether a case distinction is open, whether
the statement creates an object, and whether it has ended. -/
structure Depth where
  level : Int
  blocks : Nat
  fresh : Bool
  inCase : Bool
  creates : Bool
  ended : Bool
deriving DecidableEq

namespace Depth

def start : Depth :=
  ⟨0, 0, false, false, false, false⟩

/-- Words after `BEGIN` that make it the beginning of a transaction instead of a block. -/
def transactionWords : List String :=
  ["TRANSACTION", "WORK", "TRAN", "DISTRIBUTED", "DEFERRED", "IMMEDIATE", "EXCLUSIVE"]

def afterWord (d : Depth) (word : String) : Depth :=
  if word.startsWith "CREATE" && !clauseWords.contains word then { d with creates := true }
  else if word == "DECLARE" then
    if d.creates && d.blocks == 0 then { d with level := d.level + 1 } else d
  else if word == "BEGIN" then
    { d with
      blocks := d.blocks + 1
      fresh := true
      level := if d.creates then d.level + 1 else d.level }
  else if word == "END" then
    { d with
      blocks := if d.inCase then d.blocks else d.blocks - 1
      inCase := false
      level := d.level - 1 }
  else if ["IF", "FOR", "WHILE", "CASE"].contains word then
    if d.creates && d.blocks != 0 then
      { d with level := d.level + 1, inCase := d.inCase || word == "CASE" }
    else d
  else if ["END IF", "END FOR", "END WHILE"].contains word then { d with level := d.level - 1 }
  else d

/-- The depth after a semicolon, which ends the statement outside parentheses and blocks. -/
def afterSemicolon (d : Depth) : Depth :=
  let blocks := if d.fresh then d.blocks - 1 else d.blocks
  { d with blocks := blocks, fresh := false, ended := d.level ≤ 0 && blocks == 0 }

/-- The word names a transaction after `BEGIN`. -/
def beginsTransaction (d : Depth) (p : Piece) : Bool :=
  d.fresh && (p.kind == .keyword || p.kind == .name)
    && transactionWords.contains (Text.asString (Text.upper p.text))

def step (d : Depth) (p : Piece) : Depth :=
  let word := Text.asString (Text.upper p.text)
  if p.kind == .blank || p.kind == .comment then d
  else if p.isMark ";" then d.afterSemicolon
  else if p.isMark "(" then { d with level := d.level + 1, fresh := false }
  else if p.isMark ")" then { d with level := d.level - 1, fresh := false }
  else if d.beginsTransaction p then { d with blocks := d.blocks - 1, fresh := false }
  else if p.kind == .keyword then
    let next := d.afterWord word
    { next with
      fresh := word == "BEGIN"
      ended := (Text.words p.text).head? == some "GO".toList }
  else { d with fresh := false }

end Depth

/-- The pieces of a statement from some place on, without white space, up to a
number of keywords. -/
def openingFrom (count : Nat) (depth : Depth) (before : Option Char) (t : Text) : List Piece :=
  match t with
  | [] => []
  | c :: rest =>
    let next := cut before c rest
    let left := if next.1.kind == .keyword then count - 1 else count
    let deeper := depth.step next.1
    let shown := if next.1.kind == .blank then [] else [next.1]
    if _h : next.2.length < (c :: rest).length then
      if left == 0 || deeper.ended then shown
      else shown ++ openingFrom left deeper next.1.text.getLast? next.2
    else shown
termination_by t.length
decreasing_by exact _h

/-- The pieces of the first statement of a text, without white space, up to a number of keywords. -/
def opening (count : Nat) (t : Text) : List Piece :=
  openingFrom count Depth.start none t

end Head
end SchemaAtlas
