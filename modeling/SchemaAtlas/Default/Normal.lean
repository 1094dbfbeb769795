import SchemaAtlas.Default.Kind
import SchemaAtlas.Dialect.TypeText

namespace SchemaAtlas
namespace Default

/-!
The normal form of a default value, in which columns store it.
-/

/-- The text counts as true: it holds a one or the word itself. -/
def isTruthy (t : Text) : Bool :=
  t.contains '1' || Text.has "TRUE".toList (Text.upper t)

def truthWord (b : Bool) : Text :=
  if b then "TRUE" else "FALSE"

/-- The current time by one of its two plain names. -/
def currentTime : Phrase Unit := do
  Phrase.either (Phrase.letters "current_timestamp".toList) (Phrase.letters "now()".toList)
  Phrase.atEnd

/-- The current time, renewed on every change. -/
def renewedTime : Phrase Unit := do
  Phrase.letters "current_timestamp".toList
  DefaultKind.renewal
  Phrase.atEnd

/-- The text between single quotes, in place of the quotes that it had. -/
def requote (t : Text) : Text :=
  let bare := Text.trim t
  let inside := match Literal.enclosingQuote? bare with
    | some _ => Name.withoutEnds bare
    | none => Text.trimWhere Literal.isQuote bare
  Text.inApostrophes inside

/-- The normal form of a default value, without outer white space, of a column whose
type holds no truth value. -/
def normalOther (t : Text) : Text :=
  match DefaultKind.ofText t with
  | .null => "NULL"
  | .number => Text.inApostrophes t
  | .function =>
    if Phrase.holds currentTime t || Phrase.holds renewedTime t then
      Text.oneSpaced (Text.upper t)
    else t
  | .datetime => requote t
  | .boolean =>
    if Text.startsWith (Text.upper t) "TRUE".toList then "TRUE"
    else if Text.startsWith (Text.upper t) "FALSE".toList then "FALSE"
    else t
  | .string => t
  | .expression => t

/-- The normal form of a default value of a column type.  A blank value is none. -/
def normal? (value : Option Text) (base : Text) (length : Option Text) : Option Text :=
  match value.map Text.trim with
  | none => none
  | some [] => none
  | some (c :: rest) =>
    if TypeText.isBoolean base length then some (truthWord (isTruthy (c :: rest)))
    else some (normalOther (c :: rest))

end Default
end SchemaAtlas
