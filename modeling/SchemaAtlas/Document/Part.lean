import SchemaAtlas.Dialect.TypeText
import SchemaAtlas.Value.Display

namespace SchemaAtlas
namespace Document

/-!
Parts of a document that its plain and its Markdown form share.
-/

def entryText (v : Value) (key fallback : Text) : Text :=
  match v.get? key with
  | some entry => entry.display
  | none => fallback

/-- The text of an entry, or a note that it is not available where there is none or it is empty. -/
def availableText (v : Value) (key : Text) : Text :=
  match v.get? key with
  | some entry => if entry.isTruthy then entry.display else "N/A"
  | none => "N/A"

/-- The type of a column with its values, its length, or alone. -/
def typeText (column : Value) : Text :=
  let base := entryText column "base_type" []
  let length := column.getD "length" .null
  match column.getD "enum_values" .null, TypeText.isValueList (Text.upper base) with
  | .list values, true =>
    base ++ ['('] ++ Text.join [','] (values.map Value.display) ++ [')']
  | _, _ => if length.isTruthy then base ++ ['('] ++ length.display ++ [')'] else base

def flag (column : Value) (key : Text) : Bool :=
  (column.getD key .null).isTruthy

def defaultText? (column : Value) : Option Text :=
  match column.getD "default" .null with
  | .null => none
  | v => some v.display

end Document
end SchemaAtlas
