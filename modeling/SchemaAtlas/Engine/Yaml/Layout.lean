import SchemaAtlas.Engine.Yaml.Symbol

namespace SchemaAtlas
namespace Yaml

/-!
The symbols of a whole document.

Indentation opens and closes block collections.  That something is a key shows only at the colon
behind it; so the latest place where a key may begin is remembered on every level of brackets, and
the symbol of the key is put in there afterwards.  A key stays on one line and is not too long.
-/

/-- A place where a key may have begun: the number of symbols before it, its place, the level of
brackets, and whether a key has to be there. -/
structure Candidate where
  count : Nat
  level : Nat
  index : Nat
  line : Nat
  column : Nat
  required : Bool
deriving DecidableEq

/-- What has been read: the place, the symbols so far, the level of brackets, the indentations of
open block collections with the innermost one first, whether a key may begin here, and the places
where one may have begun. -/
structure Layout where
  cursor : Cursor
  symbols : List Symbol
  level : Nat
  indents : List Nat
  keyAllowed : Bool
  candidates : List Candidate
deriving DecidableEq

namespace Layout

def start (t : Text) : Layout :=
  let cur := Cursor.start t
  ⟨if cur.next? == some '\ufeff' then cur.forward else cur, [], 0, [], true, []⟩

/-- The indentation of the innermost block collection, or one less than any. -/
def indent (l : Layout) : Int :=
  match l.indents with
  | [] => -1
  | n :: _ => n

def push (l : Layout) (s : Symbol) : Layout :=
  { l with symbols := l.symbols ++ [s] }

/-- Symbols put in front of those read after a count. -/
def insert (l : Layout) (count : Nat) (new : List Symbol) : Layout :=
  { l with symbols := l.symbols.take count ++ new ++ l.symbols.drop count }

def advance (l : Layout) (n : Nat) : Layout :=
  { l with cursor := l.cursor.advance n }

def allowKey (l : Layout) (allowed : Bool) : Layout :=
  { l with keyAllowed := allowed }

/-- The place behind white space and comments.  A key may begin on a new line outside brackets. -/
def skipBlanks (l : Layout) : Layout :=
  let spaced := l.cursor.skip (· == ' ')
  let behind := if spaced.next? == some '#' then spaced.skip fun c => !isBreak c else spaced
  match behind.lineBreak? with
  | none => { l with cursor := behind }
  | some (_, below) =>
    if _h : below.rest.length < l.cursor.rest.length then
      skipBlanks { l with cursor := below, keyAllowed := l.keyAllowed || l.level == 0 }
    else { l with cursor := behind }
termination_by l.cursor.rest.length
decreasing_by exact _h

/-- The candidate cannot be a key any more. -/
def isStale (l : Layout) (k : Candidate) : Bool :=
  k.line != l.cursor.line || 1024 < l.cursor.index - k.index

/-- The candidates that can still be keys; a required key must be among them. -/
def dropStale (l : Layout) : Option Layout :=
  if l.candidates.any fun k => l.isStale k && k.required then none
  else some { l with candidates := l.candidates.filter fun k => !l.isStale k }

/-- No key begins here on this level of brackets; a required key must not be lost. -/
def dropCandidate (l : Layout) : Option Layout :=
  if l.candidates.any fun k => k.level == l.level && k.required then none
  else some { l with candidates := l.candidates.filter fun k => k.level != l.level }

/-- A key may begin here. -/
def noteCandidate (l : Layout) : Option Layout :=
  if l.keyAllowed then do
    let cleared <- l.dropCandidate
    let cur := l.cursor
    let new : Candidate :=
      { count := l.symbols.length
        level := l.level
        index := cur.index
        line := cur.line
        column := cur.column
        required := l.level == 0 && l.indent == (cur.column : Int) }
    some { cleared with candidates := cleared.candidates ++ [new] }
  else some l

/-- The block collections that are indented further than a column are closed. -/
def closeBeyond (column : Int) (l : Layout) : Layout :=
  if l.level != 0 then l
  else
    let closed := l.indents.takeWhile fun (n : Nat) => column < (n : Int)
    { l with
      indents := l.indents.drop closed.length
      symbols := l.symbols ++ List.replicate closed.length .blockEnd }

/-- A block collection is opened at a column, unless one is open there. -/
def openAt (column : Nat) (l : Layout) : Bool × Layout :=
  if l.indent < (column : Int) then (true, { l with indents := column :: l.indents })
  else (false, l)

/-- A block collection is opened at the present column, with its symbol. -/
def openHere (s : Symbol) (l : Layout) : Layout :=
  match l.openAt l.cursor.column with
  | (true, deeper) => deeper.push s
  | (false, same) => same

/-- A symbol of some characters behind which keys are allowed or not. -/
def mark (s : Symbol) (width : Nat) (allowed : Bool) (l : Layout) : Layout :=
  (l.push s).advance width |>.allowKey allowed

/-- A directive in front of a document.  Only its form and the version are looked at. -/
def directive? (l : Layout) : Option Layout := do
  let cleared <- (l.closeBeyond (-1)).dropCandidate
  let (name, behind) := cleared.cursor.forward.span isNameChar
  let spaced := behind.skip (· == ' ')
  let below <-
    if name.isEmpty || !endsWord behind.rest then none
    else if name == "YAML".toList then
      let (major, dot) := spaced.span Char.isDigit
      let (minor, rest) := dot.forward.span Char.isDigit
      if inBase 10 major == 1 && !major.isEmpty && dot.next? == some '.' && !minor.isEmpty then
        emptyRest? rest
      else none
    else emptyRest? (spaced.skip fun c => !isBreak c)
  some ({ cleared with cursor := below, keyAllowed := false }.push .directive)

/-- The beginning or the end of a document. -/
def boundary? (s : Symbol) (l : Layout) : Option Layout := do
  let cleared <- (l.closeBeyond (-1)).dropCandidate
  some (cleared.mark s 3 false)

/-- An opening bracket, which may begin a key. -/
def openBracket? (s : Symbol) (l : Layout) : Option Layout := do
  let noted <- l.noteCandidate
  some ({ noted with level := noted.level + 1 }.mark s 1 true)

def closeBracket? (s : Symbol) (l : Layout) : Option Layout := do
  let cleared <- l.dropCandidate
  if cleared.level == 0 then none
  else some ({ cleared with level := cleared.level - 1 }.mark s 1 false)

def comma? (l : Layout) : Option Layout := do
  let cleared <- l.dropCandidate
  some (cleared.mark .comma 1 true)

def item? (l : Layout) : Option Layout := do
  if l.level == 0 && !l.keyAllowed then none
  else
    let opened := if l.level == 0 then l.openHere .blockList else l
    let cleared <- opened.dropCandidate
    some (cleared.mark .item 1 true)

/-- The mark of a key that is not told by its colon. -/
def key? (l : Layout) : Option Layout := do
  if l.level == 0 && !l.keyAllowed then none
  else
    let opened := if l.level == 0 then l.openHere .blockMapping else l
    let cleared <- opened.dropCandidate
    some (cleared.mark .key 1 (l.level == 0))

/-- The colon in front of a value, which makes a key of the candidate on this level. -/
def value? (l : Layout) : Option Layout :=
  match l.candidates.find? fun k => k.level == l.level with
  | some k =>
    let rest := { l with candidates := l.candidates.filter fun other => other.level != l.level }
    let (opened, deeper) := if l.level == 0 then rest.openAt k.column else (false, rest)
    let new : List Symbol := if opened then [.blockMapping, .key] else [.key]
    some ((deeper.insert k.count new).mark .value 1 false)
  | none => do
    if l.level == 0 && !l.keyAllowed then none
    else
      let opened := if l.level == 0 then l.openHere .blockMapping else l
      let cleared <- opened.dropCandidate
      some (cleared.mark .value 1 (l.level == 0))

/-- A symbol with a text, which may begin a key. -/
def textual? (read : Cursor -> Option (Symbol × Cursor)) (l : Layout) : Option Layout := do
  let noted <- l.noteCandidate
  let (s, behind) <- read l.cursor
  some ({ noted with cursor := behind, keyAllowed := false }.push s)

def block? (l : Layout) : Option Layout := do
  let cleared <- l.dropCandidate
  let (text, behind) <- blockScalar? l.indent l.cursor
  some ({ cleared with cursor := behind, keyAllowed := true }.push (.scalar text false))

def plain? (l : Layout) : Option Layout := do
  let noted <- l.noteCandidate
  let (text, behind, newLine) := plainFrom (l.level != 0) (l.indent + 1) [] false l.cursor
  some ({ noted with cursor := behind, keyAllowed := newLine }.push (.scalar text true))

/-- The next symbol, at a place where something stands. -/
def symbol? (c : Char) (rest : Text) (l : Layout) : Option Layout :=
  let inFlow := l.level != 0
  if c == '%' && l.cursor.column == 0 then l.directive?
  else if l.cursor.column == 0 && l.cursor.atMark '-' then l.boundary? .documentStart
  else if l.cursor.column == 0 && l.cursor.atMark '.' then l.boundary? .documentEnd
  else if c == '[' then l.openBracket? .listOpen
  else if c == '\x7b' then l.openBracket? .mappingOpen
  else if c == ']' then l.closeBracket? .listClose
  else if c == '\x7d' then l.closeBracket? .mappingClose
  else if c == ',' then l.comma?
  else if c == '-' && endsWord rest then l.item?
  else if c == '?' && (inFlow || endsWord rest) then l.key?
  else if c == ':' && (inFlow || endsWord rest) then l.value?
  else if c == '*' then l.textual? fun cur => (anchorName? cur).map fun r => (.alias r.1, r.2)
  else if c == '&' then l.textual? fun cur => (anchorName? cur).map fun r => (.anchor r.1, r.2)
  else if c == '!' then l.textual? fun cur => (tag? cur).map fun r => (.tag r.1, r.2)
  else if (c == '|' || c == '>') && !inFlow then l.block?
  else if c == '\'' || c == '"' then
    l.textual? fun cur => (quoted? cur).map fun r => (.scalar r.1 false, r.2)
  else if beginsPlain inFlow (c :: rest) then l.plain?
  else none

/-- All symbols of a document, or nothing where it is broken. -/
def readAll? (l : Layout) : Option (List Symbol) :=
  match l.skipBlanks.dropStale with
  | none => none
  | some here =>
    let settled := here.closeBeyond here.cursor.column
    match settled.cursor.rest with
    | [] => ((settled.closeBeyond (-1)).dropCandidate).map fun final => final.symbols
    | c :: rest =>
      match settled.symbol? c rest with
      | none => none
      | some next =>
        if _h : next.cursor.rest.length < l.cursor.rest.length then readAll? next else none
termination_by l.cursor.rest.length
decreasing_by exact _h

end Layout

/-- The symbols of a document, or nothing where it is broken. -/
def symbols? (t : Text) : Option (List Symbol) :=
  (Layout.start t).readAll?

end Yaml
end SchemaAtlas
