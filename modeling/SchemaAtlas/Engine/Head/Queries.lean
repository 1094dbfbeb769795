import SchemaAtlas.Engine.Head.Opening

namespace SchemaAtlas
namespace Head

/-!
Named queries in front of a statement.

A statement that begins with `WITH` does what the word after its named queries says.  The queries
are found by grouping: parentheses first, then calls, dotted names, expressions, texts with another
name, and lists.  The word counts that stands directly behind a name or a list of names.
-/

/-- The shapes of groups. -/
inductive Shape where
  | comment
  | brackets
  | parens
  | distinction
  | block
  | call
  | name
  | operation
  | comparison
  | list
deriving DecidableEq

/-- A piece, or a group of pieces of which only the shape matters. -/
inductive Item where
  | piece (p : Piece)
  | group (shape : Shape)
deriving DecidableEq

namespace Item

def hasShape (shapes : List Shape) : Item -> Bool
  | .piece _ => false
  | .group shape => shapes.contains shape

def hasKind (kinds : List PieceKind) : Item -> Bool
  | .piece p => kinds.contains p.kind
  | .group _ => false

def isWord (words : List String) : Item -> Bool
  | .piece p => p.isWord words
  | .group _ => false

def isMark (text : String) : Item -> Bool
  | .piece p => p.isMark text
  | .group _ => false

/-- The item can take part in an expression. -/
def isOperand (i : Item) : Bool :=
  i.hasKind [.name, .quotedName, .placeholder, .number, .constant]

/-- The item is a word about rows, objects or permissions, or begins named queries. -/
def isLeadingWord (i : Item) : Bool :=
  i.isWord manipulationWords || i.isWord definitionWords || i.isWord permissionWords
    || i.isWord ["WITH"]

end Item

/-- The items with everything between matching ends made one group, where `current` holds the items
already read on the innermost level and `outer` those on the levels around it, all in reverse. -/
def enclose (opens closes : Item -> Bool) (shape : Shape) (outer : List (List Item))
    (current : List Item) : List Item -> List Item
  | [] => (current :: outer).reverse.flatMap List.reverse
  | i :: rest =>
    if opens i then enclose opens closes shape (current :: outer) [i] rest
    else if closes i then
      match outer with
      | [] => enclose opens closes shape [] (i :: current) rest
      | o :: os => enclose opens closes shape os (.group shape :: o) rest
    else enclose opens closes shape outer (i :: current) rest

/-- A way to join three neighbours to one group. -/
structure Joint where
  middle : Item -> Bool
  before : Item -> Bool
  behind : Item -> Bool
  shape : Shape

/-- The items with all neighbours joined that a joint fits.  The item in front is `held`; in a chain
the last link of it decides whether the chain goes on. -/
def joinFrom (j : Joint) (held last : Item) : List Item -> List Item
  | [] => [held]
  | [i] => [held, i]
  | i :: next :: rest =>
    if j.middle i && j.before last && j.behind next then
      joinFrom j (.group j.shape) next rest
    else held :: joinFrom j i i (next :: rest)

/-- The items with all neighbours joined that a joint fits. -/
def join (j : Joint) : List Item -> List Item
  | [] => []
  | i :: rest => joinFrom j i i rest

/-- A name with parentheses behind it is a call. -/
def calls : List Item -> List Item
  | [] => []
  | [i] => [i]
  | i :: next :: rest =>
    if i.hasKind [.name, .typeName, .placeholder] && next.hasShape [.parens] then
      .group .call :: calls rest
    else i :: calls (next :: rest)

/-- A plain or quoted name is a group of its own. -/
def names (items : List Item) : List Item :=
  items.map fun i => if i.hasKind [.name, .quotedName] then .group .name else i

/-- A name behind an expression is another name for it. -/
def renamed : List Item -> List Item
  | [] => []
  | [i] => [i]
  | i :: next :: rest =>
    if (i.hasShape [.parens, .call, .distinction, .name, .operation, .comparison]
        || i.hasKind [.number]) && next.hasShape [.name] then
      .group .name :: renamed rest
    else i :: renamed (next :: rest)

/-- The items without the comments behind groups, which become part of them. -/
def withoutComments (afterGroup : Bool) : List Item -> List Item
  | [] => []
  | .group .comment :: rest =>
    if afterGroup then withoutComments true rest
    else .group .comment :: withoutComments true rest
  | .group shape :: rest => .group shape :: withoutComments true rest
  | .piece p :: rest => .piece p :: withoutComments false rest

/-- The items that pieces are, with neighbouring comments made one. -/
def ofPieces (afterComment : Bool) : List Piece -> List Item
  | [] => []
  | p :: rest =>
    if p.kind == .comment then
      if afterComment then ofPieces true rest else .group .comment :: ofPieces true rest
    else .piece p :: ofPieces false rest

def dotted : Joint where
  middle i := i.isMark "."
  before i := i.hasKind [.name, .quotedName] || i.hasShape [.brackets, .call]
  behind i := i.hasKind [.name, .quotedName, .constant] || i.hasShape [.brackets, .call]
  shape := .name

def converted : Joint where
  middle i := i.isMark "::"
  before _ := true
  behind _ := true
  shape := .name

def operated : Joint where
  middle i := i.hasKind [.operator]
  before i := i.isOperand || i.hasShape [.brackets, .parens, .call, .name, .operation]
  behind i := i.isOperand || i.hasShape [.brackets, .parens, .call, .name, .operation]
  shape := .operation

def compared : Joint where
  middle i := i.hasKind [.comparison]
  before i := i.isOperand || i.hasShape [.parens, .call, .name, .operation] || i.isWord ["NULL"]
  behind i := i.isOperand || i.hasShape [.parens, .call, .name, .operation] || i.isWord ["NULL"]
  shape := .comparison

def named : Joint where
  middle i := i.isWord ["AS"]
  before i := i.isWord ["NULL"] || !i.hasKind [.keyword]
  behind i := !(i.isWord manipulationWords || i.isWord definitionWords || i.isWord ["WITH"])
  shape := .name

/-- Names and values with commas between them. -/
def listed : Joint where
  middle i := i.isMark ","
  before i := i.isOperand || i.hasShape [.call, .distinction, .name, .comparison, .list, .operation]
    || (i.hasKind [.keyword] && !i.isLeadingWord)
  behind i := i.isOperand || i.hasShape [.call, .distinction, .name, .comparison, .list, .operation]
    || (i.hasKind [.keyword] && !i.isLeadingWord)
  shape := .list

/-- The items of a statement after all grouping. -/
def grouped (pieces : List Piece) : List Item :=
  let between (opens closes : Item -> Bool) (shape : Shape) (items : List Item) : List Item :=
    enclose opens closes shape [] [] items
  let blocks := ofPieces false pieces
    |> between (Item.isMark "[") (Item.isMark "]") .brackets
    |> between (Item.isMark "(") (Item.isMark ")") .parens
    |> between (Item.isWord ["CASE"]) (Item.isWord ["END"]) .distinction
    |> between (Item.isWord ["IF"]) (Item.isWord ["END IF"]) .block
    |> between (Item.isWord ["FOR", "FOREACH"]) (Item.isWord ["END LOOP"]) .block
    |> between (Item.isWord ["BEGIN"]) (Item.isWord ["END"]) .block
  names (join dotted (calls blocks))
    |> join converted |> join operated |> join compared |> join named |> renamed
    |> withoutComments false |> join listed

/-- The word about rows that stands directly behind a name or a list.  What stands behind another
name or list is passed over. -/
def wordBehindName : List Item -> Option Text
  | [] => none
  | [_] => none
  | i :: next :: rest =>
    if i.hasShape [.name, .list] then
      match next with
      | .piece p =>
        if p.isWord manipulationWords then some (Text.upper p.text) else wordBehindName rest
      | .group _ => wordBehindName rest
    else wordBehindName (next :: rest)

end Head
end SchemaAtlas
