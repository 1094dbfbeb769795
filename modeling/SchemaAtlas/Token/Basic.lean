import SchemaAtlas.Text.Case

namespace SchemaAtlas

/-!
Tokens of table definitions, with the place where each one stands.
-/

/-- The kind of a token.  The last kind marks the end of the text. -/
inductive TokenKind where
  | keyword
  | identifier
  | quotedIdentifier
  | string
  | number
  | typeName
  | operator
  | comma
  | dot
  | semicolon
  | openParen
  | closeParen
  | endOfText
deriving DecidableEq

/-- A place in a text: the number of characters before it, its line, and its column.  Lines and
columns count from one. -/
structure Place where
  position : Nat
  line : Nat
  column : Nat
deriving DecidableEq

namespace Place

def start : Place := ⟨0, 1, 1⟩

/-- The place behind one more character. -/
def step (p : Place) (c : Char) : Place :=
  if c == '\n' then ⟨p.position + 1, p.line + 1, 1⟩ else ⟨p.position + 1, p.line, p.column + 1⟩

def after (p : Place) (t : Text) : Place :=
  t.foldl step p

end Place

/-- A token: its kind, the text it shows, and the place of its first character. -/
structure Token where
  kind : TokenKind
  value : Text
  place : Place
deriving DecidableEq

namespace Token

def stop (t : Token) : Nat :=
  t.place.position + t.value.length

def upper (t : Token) : Text :=
  Text.upper t.value

/-- The token is a name, in quotes or without. -/
def isName (t : Token) : Bool :=
  t.kind == .identifier || t.kind == .quotedIdentifier

/-- The token is a bare word with a meaning of its own. -/
def isReserved (t : Token) : Bool :=
  t.kind == .keyword || t.kind == .typeName

/-- The upper-case text of a token that is no string literal; a string literal spells no word. -/
def word (t : Token) : Text :=
  if t.kind == .string then [] else t.upper

end Token
end SchemaAtlas
