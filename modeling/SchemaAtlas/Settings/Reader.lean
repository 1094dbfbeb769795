import SchemaAtlas.Value.Basic

namespace SchemaAtlas

/-!
Readers of YAML documents, which stand outside of this library.
-/

/-- Why a document gives no value: it is not well formed, or its reader gives up
on it with a message. -/
inductive YamlError where
  | malformed
  | raised (message : Text)

/-- A reader of documents.  The mappings of its values have texts as keys. -/
structure YamlReader where
  read : Text -> Except YamlError Value

end SchemaAtlas
