import SchemaAtlas.Dialect.TypeText
import SchemaAtlas.Value.Basic

namespace SchemaAtlas

/-!
Columns of tables.
-/

/-- A column of a table. -/
structure Column where
  name : Text
  baseType : Text
  length : Option Text
  nullable : Bool
  default : Option Text
  primaryKey : Bool
  autoIncrement : Bool
  enumValues : Option (List Text)
  comment : Option Text
deriving DecidableEq

namespace Column

/-- The column with the rule that a key column is never empty. -/
def settled (c : Column) : Column :=
  { c with nullable := c.nullable && !c.primaryKey }

def asKey (c : Column) : Column :=
  { c with primaryKey := true, nullable := false }

/-- The name by which columns are told apart. -/
def key (c : Column) : Text :=
  Text.lower c.name

/-- The type with its values, its length, or alone. -/
def fullType (c : Column) : Text :=
  match c.enumValues with
  | some values =>
    if TypeText.isValueList (Text.upper c.baseType) then
      c.baseType ++ ['('] ++ Text.join [','] (values.map Text.inApostrophes) ++ [')']
    else sized
  | none => sized
where
  /-- The type with its length, where it has one. -/
  sized : Text :=
    match c.length with
    | some (d :: ds) => c.baseType ++ ['('] ++ (d :: ds) ++ [')']
    | _ => c.baseType

def toValue (c : Column) : Value :=
  .mapping
    [("name", .text c.name),
     ("base_type", .text c.baseType),
     ("length", Value.ofOption Value.text c.length),
     ("nullable", .bool c.nullable),
     ("default", Value.ofOption Value.text c.default),
     ("primary_key", .bool c.primaryKey),
     ("auto_increment", .bool c.autoIncrement),
     ("enum_values", Value.ofOption Value.ofTexts c.enumValues),
     ("comment", Value.ofOption Value.text c.comment)]

end Column
end SchemaAtlas
