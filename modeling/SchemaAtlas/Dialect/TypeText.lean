import SchemaAtlas.Text.Blank
import SchemaAtlas.Text.Case
import SchemaAtlas.Text.Word

namespace SchemaAtlas

/-!
The text of a column type: a name, and parameters in parentheses behind it.
-/

/-- A column type: its name, and its parameters where parentheses stand behind the name. -/
structure TypeText where
  base : Text
  params : Option Text
deriving DecidableEq

namespace TypeText

def isValueList (base : Text) : Bool :=
  base == "ENUM".toList || base == "SET".toList

/-- What may stand behind the name of a type: white space alone, or parameters between the next
parenthesis and the last one. -/
def tail? (t : Text) : Option (Option Text) :=
  match Text.trimStart t with
  | [] => some none
  | c :: inner =>
    let body := Text.trimEnd inner
    if c == '(' && body.getLast? == some ')' then some (some body.dropLast) else none

/-- The shortest name, made of word characters and spaces, behind which a type may end; `reversed`
holds the part of the name that is read already. -/
def nameAndTail? (reversed : Text) : Text -> Option (Text × Option Text)
  | [] => some (reversed.reverse, none)
  | c :: rest =>
    match tail? (c :: rest) with
    | some params => some (reversed.reverse, params)
    | none =>
      if Text.isWordChar c || c == ' ' then nameAndTail? (c :: reversed) rest else none

/-- The name and the parameters of a type as they are written. -/
def written? (t : Text) : Option (Text × Option Text) :=
  match Text.trimStart t with
  | c :: rest => if c.isAlpha || c == '_' then nameAndTail? [c] rest else none
  | [] => none

/-- A type text taken apart.  White space in the parameters goes away, except inside a list of
values; a text of another form is a name as a whole. -/
def ofText (t : Text) : TypeText :=
  match written? t with
  | none => ⟨Text.trim t, none⟩
  | some (name, params) =>
    let base := Text.oneSpaced name
    ⟨base, params.map fun inside =>
      if isValueList (Text.upper base) then Text.trim inside else Text.withoutBlanks inside⟩

/-- Types that hold a truth value: a name with BOOL in it, a single bit, a tiny
integer of one digit. -/
def isBoolean (base : Text) (length : Option Text) : Bool :=
  let u := Text.upper (Text.trim base)
  if u == "BIT".toList then
    length == none || length == some [] || length == some "1".toList
  else if Text.has "BOOL".toList u then true
  else u == "TINYINT".toList && length.map Text.trim == some "1".toList

end TypeText
end SchemaAtlas
