import SchemaAtlas.Text.Basic

namespace SchemaAtlas
namespace Yaml

/-!
Places in a document: what is still to be read, with the number of characters before it, and its
line and column.
-/

/-- A place in a document. -/
structure Cursor where
  rest : Text
  index : Nat
  line : Nat
  column : Nat
deriving DecidableEq

def isBreak (c : Char) : Bool :=
  c == '\n' || c == '\r' || c == '\u0085' || c == '\u2028' || c == '\u2029'

def isSpace (c : Char) : Bool :=
  c == ' ' || c == '\t'

/-- A text that no word goes on into: it is empty, or begins with a space, a tab or a line end. -/
def endsWord : Text -> Bool
  | [] => true
  | c :: _ => isSpace c || isBreak c

namespace Cursor

def start (t : Text) : Cursor :=
  ⟨t, 0, 0, 0⟩

/-- The place one character further.  A byte order mark takes up no column. -/
def forward (cur : Cursor) : Cursor :=
  match cur.rest with
  | [] => cur
  | c :: rest =>
    if isBreak c then ⟨rest, cur.index + 1, cur.line + 1, 0⟩
    else if c == '\ufeff' then ⟨rest, cur.index + 1, cur.line, cur.column⟩
    else ⟨rest, cur.index + 1, cur.line, cur.column + 1⟩

def advance : Nat -> Cursor -> Cursor
  | 0, cur => cur
  | n + 1, cur => advance n cur.forward

/-- The characters at a place that satisfy a test, up to the first one that does not,
and the place behind them. -/
def span (test : Char -> Bool) (cur : Cursor) : Text × Cursor :=
  let taken := cur.rest.takeWhile test
  (taken, cur.advance taken.length)

/-- The place behind all characters that satisfy a test. -/
def skip (test : Char -> Bool) (cur : Cursor) : Cursor :=
  (cur.span test).2

def next? (cur : Cursor) : Option Char :=
  cur.rest.head?

/-- The line end at a place as it counts in a scalar, and the place behind it. -/
def lineBreak? (cur : Cursor) : Option (Text × Cursor) :=
  match cur.rest with
  | [] => none
  | '\r' :: '\n' :: _ => some (['\n'], cur.advance 2)
  | c :: _ =>
    if c == '\u2028' || c == '\u2029' then some ([c], cur.forward)
    else if isBreak c then some (['\n'], cur.forward)
    else none

/-- A line of three equal marks stands here, which begins or ends a document. -/
def atMark (mark : Char) (cur : Cursor) : Bool :=
  cur.rest.take 3 == [mark, mark, mark] && endsWord (cur.rest.drop 3)

/-- The beginning or the end of a document stands here. -/
def atBoundary (cur : Cursor) : Bool :=
  cur.atMark '-' || cur.atMark '.'

end Cursor
end Yaml
end SchemaAtlas
