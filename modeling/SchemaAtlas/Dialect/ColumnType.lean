import SchemaAtlas.Dialect.Table
import SchemaAtlas.Dialect.TypeText
import SchemaAtlas.Literal
import SchemaAtlas.Text.Digit
import SchemaAtlas.Token.Lexeme

namespace SchemaAtlas
namespace Dialect

/-!
Column types in a dialect.
-/

def isParamChar (c : Char) : Bool :=
  c.isAlphanum || c == '_'

/-- The parameters of a numeric type: the runs of letters, digits and underscores. -/
def numericParams (length : Text) : List Text :=
  (Text.splitWhere (fun c => !isParamChar c) length).filter fun run => !run.isEmpty

/-- The insides of the string literals in a text, with doubled quotes resolved. -/
def listedValues (t : Text) : List Text :=
  match t with
  | [] => []
  | c :: rest =>
    if c == '\'' then
      match Lexeme.quoteEnd? '\'' true rest with
      | some n => Text.collapse '\'' (rest.take (n - 1)) :: listedValues (rest.drop n)
      | none => listedValues rest
    else listedValues rest
termination_by t.length

def literalList (values : List Text) : Text :=
  Text.join [','] (values.map Literal.single)

def longest (values : List Text) : Nat :=
  (values.map List.length).foldl max 0

def isPrecise (base : Text) : Bool :=
  base == "NUMERIC".toList || base == "DECIMAL".toList

/-- The type of a dialect under the first beginning that fits a type. -/
def lookup? (d : Dialect) (type : Text) : Option Text :=
  let key := Text.lower (TypeText.ofText type).base
  (d.types.find? fun entry => Text.startsWith key entry.1).map Prod.snd

/-- A type with something in parentheses behind it. -/
def withParams (base inside : Text) : Text :=
  base ++ ['('] ++ inside ++ [')']

/-- A column type in a dialect.  The length may stand inside the type or beside it. -/
def columnType (d : Dialect) (type : Text) (length : Option Text) (values : Option (List Text)) :
    Text :=
  let parts := TypeText.ofText type
  let size := length.or parts.params
  let base := Text.upper parts.base
  if TypeText.isBoolean base size then d.booleanType
  else if TypeText.isValueList base then
    let listed := values.getD (listedValues (size.getD []))
    match d.listType? with
    | none => withParams base (literalList listed)
    | some text => withParams text (Text.ofNat (longest listed + 2))
  else
    let given := size.getD []
    match d.lookup? parts.base with
    | none =>
      if !given.isEmpty && parts.params.isNone then withParams parts.base given
      else Text.trim type
    | some mapped =>
      if mapped.contains '(' then mapped
      else if isPrecise mapped && !given.isEmpty then
        match numericParams given with
        | [] => mapped
        | params => withParams mapped (Text.join [','] params)
      else if d.lengthTypes.contains mapped && !given.isEmpty && given.all Text.isAnyDigit then
        withParams mapped given
      else mapped

end Dialect
end SchemaAtlas
