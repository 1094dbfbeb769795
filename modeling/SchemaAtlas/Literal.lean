import SchemaAtlas.Name.Quoted

namespace SchemaAtlas
namespace Literal

/-!
String literals.  Inside a literal a quote is written twice, and a backslash in front of a quote or
of another backslash stands for that character alone.
-/

/-- A quote that encloses a string literal. -/
def isQuote (c : Char) : Bool :=
  c == '\'' || c == '"'

/-- A backslash in front of a quote or a backslash disappears; any other one stays. -/
def dropEscapes : Text -> Text
  | [] => []
  | [c] => [c]
  | c :: d :: rest =>
    if c == '\\' && (isQuote d || d == '\\') then d :: dropEscapes rest
    else c :: dropEscapes (d :: rest)

/-- The text that the inside of a literal stands for.  Doubled single quotes are resolved first,
doubled double quotes only between double quotes, and backslashes last. -/
def decode (body : Text) (quote : Char) : Text :=
  let singles := Text.collapse '\'' body
  dropEscapes (if quote == '"' then Text.collapse '"' singles else singles)

/-- The quote that encloses a text of at least two characters at both ends. -/
def enclosingQuote? : Text -> Option Char
  | [] => none
  | [_] => none
  | c :: d :: rest => if isQuote c && (d :: rest).getLastD d == c then some c else none

/-- The text that a literal stands for; a text without enclosing quotes stands for itself. -/
def unquote (t : Text) : Text :=
  match enclosingQuote? t with
  | some quote => decode (Name.withoutEnds t) quote
  | none => t

/-- A text as a literal in single quotes, where inner quotes are written twice. -/
def single (t : Text) : Text :=
  '\'' :: Text.double '\'' t ++ ['\'']

end Literal
end SchemaAtlas
