import SchemaAtlas.Name.Quoted

namespace SchemaAtlas

/-!
Qualified names: parts joined by dots.  A dot inside quotes belongs to its part.
-/

namespace Name

/-- A character put in front of the first of several pieces. -/
def ontoFirst (c : Char) : List Text -> List Text
  | [] => [[c]]
  | piece :: pieces => (c :: piece) :: pieces

/-- The pieces of a text between the dots outside quotes; `closing` is the character that ends
the quotes which are open. -/
def dottedPieces : Option Char -> Text -> List Text
  | _, [] => [[]]
  | some closing, c :: rest =>
    ontoFirst c (dottedPieces (if c == closing then none else some closing) rest)
  | none, c :: rest =>
    match closing? c with
    | some closing => ontoFirst c (dottedPieces (some closing) rest)
    | none =>
      if c == '.' then [] :: dottedPieces none rest else ontoFirst c (dottedPieces none rest)

/-- The parts of a qualified name without their quotes; empty parts are left out. -/
def parts (name : Text) : List Text :=
  ((dottedPieces none (Text.trim name)).map stripQuotes).filter fun part => !part.isEmpty

end Name

/-- The name of a table, with that of its schema where one is given. -/
structure QualifiedName where
  schema : Option Text
  table : Text
deriving DecidableEq

namespace QualifiedName

/-- The last part names the table, the part before it the schema. -/
def ofParts (parts : List Text) : QualifiedName :=
  match parts.reverse with
  | [] => ⟨none, []⟩
  | [table] => ⟨none, table⟩
  | table :: schema :: _ => ⟨some schema, table⟩

/-- The qualified name that a text spells. -/
def ofText (name : Text) : QualifiedName :=
  ofParts (Name.parts name)

end QualifiedName
end SchemaAtlas
