import SchemaAtlas.Document.Build
import SchemaAtlas.Document.Markdown
import SchemaAtlas.Document.Plain
import SchemaAtlas.Failure
import SchemaAtlas.Value.Json

namespace SchemaAtlas
namespace Document

/-!
Documents in one of three formats.
-/

/-- The format of an exported document. -/
inductive Format where
  | json
  | text
  | markdown
deriving DecidableEq

namespace Format

def labels : List Text :=
  ["json", "text", "markdown"]

/-- The format of a name, whatever its case and outer white space.  No name means JSON. -/
def ofName? (name : Text) : Option Format :=
  let key := Text.trim (Text.lower name)
  if name.isEmpty || key == "json".toList then some .json
  else if key == "text".toList then some .text
  else if key == "markdown".toList then some .markdown
  else none

/-- The message about a format that is not known. -/
def unknownMessage (name : Text) : Text :=
  "Неподдерживаемый формат: ".toList ++ name ++ ". Доступные: ".toList
    ++ Text.join ", ".toList labels

end Format

def render (format : Format) (document : Value) : Text :=
  match format with
  | .json => document.toJson
  | .text => plain document
  | .markdown => markdown document

def exportAs (name : Text) (document : Value) : Except Fault Text :=
  match Format.ofName? name with
  | some format => .ok (render format document)
  | none => .error (.unknownFormat name)

end Document
end SchemaAtlas
