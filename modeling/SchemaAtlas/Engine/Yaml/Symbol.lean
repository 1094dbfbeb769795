import SchemaAtlas.Engine.Yaml.Cursor

namespace SchemaAtlas
namespace Yaml

/-!
The symbols of a document, and how those that hold a text are read: names, tags and scalars.

Every reader gives what it read and the place behind it, or nothing where the document is broken.
-/

/-- A symbol: a boundary of a document, a collection, an entry or a key, or a symbol with a text. -/
inductive Symbol where
  | directive
  | documentStart
  | documentEnd
  | blockList
  | blockMapping
  | blockEnd
  | listOpen
  | listClose
  | mappingOpen
  | mappingClose
  | item
  | comma
  | key
  | value
  | alias (name : Text)
  | anchor (name : Text)
  | tag (name : Text)
  | scalar (text : Text) (plain : Bool)
deriving DecidableEq

/-! Names and tags. -/

def isNameChar (c : Char) : Bool :=
  c.isAlphanum || c == '-' || c == '_'

/-- The name behind the mark of an anchor or an alias. -/
def anchorName? (cur : Cursor) : Option (Text × Cursor) :=
  let (name, behind) := cur.forward.span isNameChar
  let ended := endsWord behind.rest || behind.next?.any "?:,]\x7d%@\x60".toList.contains
  if !name.isEmpty && ended then some (name, behind) else none

def isTagChar (c : Char) : Bool :=
  isNameChar c || ";/?:@&=+$,.!~*'()[]%".toList.contains c

def standardTag : Text :=
  "tag:yaml.org,2002:".toList

/-- The text of a tag that is not empty, and the place behind it. -/
def tagText? (cur : Cursor) : Option (Text × Cursor) :=
  let (text, behind) := cur.span isTagChar
  if text.isEmpty then none else some (text, behind)

/-- A tag in full, in short form or empty. -/
def tagBody? (cur : Cursor) : Option (Text × Cursor) :=
  match cur.rest with
  | '!' :: '<' :: _ => do
    let (text, behind) <- tagText? (cur.advance 2)
    if behind.next? == some '>' then some (text, behind.forward) else none
  | '!' :: '!' :: _ => do
    let (text, behind) <- tagText? (cur.advance 2)
    some (standardTag ++ text, behind)
  | '!' :: rest =>
    if endsWord rest then some (['!'], cur.forward)
    else if (rest.takeWhile fun c => c != ' ' && !isBreak c).contains '!' then none
    else do
      let (text, behind) <- tagText? cur.forward
      some ('!' :: text, behind)
  | _ => none

/-- A tag, which only a space or a line end may follow. -/
def tag? (cur : Cursor) : Option (Text × Cursor) := do
  let (text, behind) <- tagBody? cur
  if endsWord behind.rest && behind.next? != some '\t' then some (text, behind) else none

/-! Quoted scalars. -/

/-- The character that an escape of one letter stands for. -/
def escape? (c : Char) : Option Char :=
  match c with
  | '0' => some '\x00'
  | 'a' => some '\x07'
  | 'b' => some '\x08'
  | 't' => some '\t'
  | '\t' => some '\t'
  | 'n' => some '\n'
  | 'v' => some '\x0b'
  | 'f' => some '\x0c'
  | 'r' => some '\r'
  | 'e' => some '\x1b'
  | ' ' => some ' '
  | '"' => some '"'
  | '\\' => some '\\'
  | '/' => some '/'
  | 'N' => some '\u0085'
  | '_' => some '\u00a0'
  | 'L' => some '\u2028'
  | 'P' => some '\u2029'
  | _ => none

/-- The number of digits of an escape by code point. -/
def escapeWidth? (c : Char) : Option Nat :=
  if c == 'x' then some 2 else if c == 'u' then some 4 else if c == 'U' then some 8 else none

def isHexDigit (c : Char) : Bool :=
  c.isDigit || ('a' ≤ c && c ≤ 'f') || ('A' ≤ c && c ≤ 'F')

/-- The value of a digit of any base up to sixteen. -/
def digitOf (c : Char) : Nat :=
  if c.isDigit then c.toNat - '0'.toNat else c.toLower.toNat - 'a'.toNat + 10

/-- The number that digits of a base denote. -/
def inBase (base : Nat) (digits : Text) : Nat :=
  digits.foldl (fun n c => base * n + digitOf c) 0

/-- The empty lines inside a quoted scalar, without the spaces around them. -/
def emptyLines? (cur : Cursor) : Option (Text × Cursor) :=
  if cur.atBoundary then none
  else
    match (cur.skip isSpace).lineBreak? with
    | none => some ([], cur.skip isSpace)
    | some (ending, behind) =>
      if _h : behind.rest.length < cur.rest.length then
        (emptyLines? behind).map fun r => (ending ++ r.1, r.2)
      else none
termination_by cur.rest.length
decreasing_by exact _h

/-- What a line end inside a scalar becomes: a space, unless empty lines follow. -/
def folded (ending empty : Text) : Text :=
  if ending != ['\n'] then ending ++ empty
  else if empty.isEmpty then [' ']
  else empty

/-- Spaces and line ends inside a quoted scalar. -/
def quotedSpaces? (cur : Cursor) : Option (Text × Cursor) :=
  let (spaces, behind) := cur.span isSpace
  if behind.rest.isEmpty then none
  else
    match behind.lineBreak? with
    | none => some (spaces, behind)
    | some (ending, below) => (emptyLines? below).map fun r => (folded ending r.1, r.2)

def escaped? (cur : Cursor) : Option (Text × Cursor) :=
  match cur.rest with
  | [] => none
  | c :: rest =>
    match escape? c, escapeWidth? c, cur.lineBreak? with
    | some d, _, _ => some ([d], cur.forward)
    | none, some width, _ =>
      let digits := rest.take width
      if digits.length == width && digits.all isHexDigit then
        some ([Char.ofNat (inBase 16 digits)], cur.advance (width + 1))
      else none
    | none, none, some (_, below) => emptyLines? below
    | none, none, none => none

/-- One step inside quotes: a text without the quote, or an escape. -/
def quotedStep? (double : Bool) (cur : Cursor) : Option (Text × Cursor) :=
  match cur.rest with
  | [] => none
  | c :: rest =>
    if isSpace c || isBreak c then quotedSpaces? cur
    else if !double && c == '\'' then
      if rest.head? == some '\'' then some (['\''], cur.advance 2) else none
    else if double && c == '\\' then escaped? cur.forward
    else some ([c], cur.forward)

/-- The text inside quotes, up to the closing one, and the place behind it. -/
def quotedBody? (double : Bool) (cur : Cursor) : Option (Text × Cursor) :=
  let closes :=
    match cur.rest with
    | '"' :: _ => double
    | '\'' :: rest => !double && rest.head? != some '\''
    | _ => false
  if closes then some ([], cur.forward)
  else
    match quotedStep? double cur with
    | none => none
    | some (text, behind) =>
      if _h : behind.rest.length < cur.rest.length then
        (quotedBody? double behind).map fun r => (text ++ r.1, r.2)
      else none
termination_by cur.rest.length
decreasing_by exact _h

def quoted? (cur : Cursor) : Option (Text × Cursor) :=
  quotedBody? (cur.next? == some '"') cur.forward

/-! Block scalars. -/

/-- What happens to the line ends at the end of a block scalar. -/
inductive Chomping where
  | clip
  | strip
  | keep
deriving DecidableEq

def chomping? (c : Char) : Option Chomping :=
  if c == '+' then some .keep else if c == '-' then some .strip else none

def increment? (c : Char) : Option Nat :=
  if '1' ≤ c && c ≤ '9' then some (digitOf c) else none

/-- The marks behind the beginning of a block scalar, in either order. -/
def blockMarks (cur : Cursor) : Chomping × Option Nat × Cursor :=
  match cur.rest with
  | [] => (.clip, none, cur)
  | c :: rest =>
    match chomping? c, increment? c with
    | some ending, _ =>
      match rest.head?.bind increment? with
      | some n => (ending, some n, cur.advance 2)
      | none => (ending, none, cur.forward)
    | none, some n =>
      match rest.head?.bind chomping? with
      | some ending => (ending, some n, cur.advance 2)
      | none => (.clip, some n, cur.forward)
    | none, none => (.clip, none, cur)

/-- The rest of a line that holds nothing but a comment, and the place below it. -/
def emptyRest? (cur : Cursor) : Option Cursor :=
  let spaced := cur.skip (· == ' ')
  let behind := if spaced.next? == some '#' then spaced.skip fun c => !isBreak c else spaced
  match behind.lineBreak? with
  | some (_, below) => some below
  | none => if behind.rest.isEmpty then some behind else none

/-- The empty lines in front of a block scalar, the greatest indentation among them and the first
line, and the place at the end of it. -/
def deepestIndent (deepest : Nat) (cur : Cursor) : Text × Nat × Cursor :=
  let spaced := cur.skip (· == ' ')
  let deeper := if spaced.index != cur.index then max deepest spaced.column else deepest
  match spaced.lineBreak? with
  | none => ([], deeper, spaced)
  | some (ending, below) =>
    if _h : below.rest.length < cur.rest.length then
      let r := deepestIndent deeper below
      (ending ++ r.1, r.2)
    else ([], deeper, spaced)
termination_by cur.rest.length
decreasing_by exact _h

/-- The place behind spaces, as far as an indentation goes. -/
def toIndent (indent : Nat) (cur : Cursor) : Cursor :=
  cur.advance ((cur.rest.take (indent - cur.column)).takeWhile (· == ' ')).length

/-- The empty lines inside a block scalar, and the place at the indentation behind them. -/
def blankLines (indent : Nat) (cur : Cursor) : Text × Cursor :=
  let here := toIndent indent cur
  match here.lineBreak? with
  | none => ([], here)
  | some (ending, below) =>
    if _h : below.rest.length < cur.rest.length then
      let r := blankLines indent below
      (ending ++ r.1, r.2)
    else ([], here)
termination_by cur.rest.length
decreasing_by exact _h

/-- The lines of a block scalar from its indentation on, after the empty lines `blank` above them.
In a folded scalar a line end between two lines that begin with no space becomes a space. -/
def blockLines (fold : Bool) (ending : Chomping) (indent : Nat) (blank last : Text) (cur : Cursor) :
    Text × Cursor :=
  if cur.column == indent && !cur.rest.isEmpty then
    let (line, behind) := cur.span fun c => !isBreak c
    let (lineEnd, below) := behind.lineBreak?.getD ([], behind)
    let (more, next) := blankLines indent below
    let goesOn := next.column == indent && !next.rest.isEmpty
    let joined :=
      if !goesOn then []
      else if fold && lineEnd == ['\n'] && !cur.next?.any isSpace && !next.next?.any isSpace then
        if more.isEmpty then [' '] else []
      else lineEnd
    if _h : next.rest.length < cur.rest.length then
      let r := blockLines fold ending indent more lineEnd next
      (blank ++ line ++ joined ++ r.1, r.2)
    else (blank ++ line, next)
  else
    ((if ending == .strip then [] else last) ++ (if ending == .keep then blank else []), cur)
termination_by cur.rest.length
decreasing_by exact _h

/-- A block scalar inside a collection with an indentation. -/
def blockScalar? (outer : Int) (cur : Cursor) : Option (Text × Cursor) :=
  let fold := cur.next? == some '>'
  let (ending, increment, behind) := blockMarks cur.forward
  if !(endsWord behind.rest && behind.next? != some '\t') then none
  else
    match emptyRest? behind with
    | none => none
    | some below =>
      let least := max (outer + 1).toNat 1
      match increment with
      | some n =>
        let indent := least + n - 1
        let (blank, first) := blankLines indent below
        some (blockLines fold ending indent blank [] first)
      | none =>
        let (blank, deepest, first) := deepestIndent 0 below
        some (blockLines fold ending (max least deepest) blank [] first)

/-! Plain scalars. -/

def isFlowMark (c : Char) : Bool :=
  ",[]\x7b\x7d".toList.contains c

/-- A plain scalar can begin with this text. -/
def beginsPlain (inFlow : Bool) : Text -> Bool
  | [] => false
  | c :: rest =>
    !(isSpace c || isBreak c || "-?:,[]\x7b\x7d#&*!|>'\"%@\x60".toList.contains c)
      || (!endsWord rest && (c == '-' || (!inFlow && (c == '?' || c == ':'))))

/-- The number of characters of a plain scalar up to the next space, line end or mark. -/
def plainLength (inFlow : Bool) : Text -> Nat
  | [] => 0
  | c :: rest =>
    if isSpace c || isBreak c || (inFlow && (isFlowMark c || c == '?'))
        || (c == ':' && (endsWord rest || (inFlow && rest.head?.any isFlowMark))) then 0
    else 1 + plainLength inFlow rest

/-- The empty lines inside a plain scalar with the spaces around them, and the place behind them;
nothing where a document ends or begins. -/
def plainLines? (cur : Cursor) : Option Text × Cursor :=
  if cur.atBoundary then (none, cur)
  else
    let spaced := cur.skip (· == ' ')
    match spaced.lineBreak? with
    | none => (some [], spaced)
    | some (ending, below) =>
      if _h : below.rest.length < cur.rest.length then
        let r := plainLines? below
        (r.1.map (ending ++ ·), r.2)
      else (none, spaced)
termination_by cur.rest.length
decreasing_by exact _h

/-- Spaces and line ends inside a plain scalar, if it can go on behind them, the place behind them,
and whether there was a line end. -/
def plainSpaces? (cur : Cursor) : Option Text × Cursor × Bool :=
  let (spaces, behind) := cur.span (· == ' ')
  match behind.lineBreak? with
  | none => (if spaces.isEmpty then none else some spaces, behind, false)
  | some (ending, below) =>
    let r := plainLines? below
    (r.1.map (folded ending), r.2, true)

/-- The rest of a plain scalar after the spaces `spaces`, the place behind it, and whether that
place is on a new line.  Outside brackets a plain scalar stays at its indentation. -/
def plainFrom (inFlow : Bool) (indent : Int) (spaces : Text) (newLine : Bool) (cur : Cursor) :
    Text × Cursor × Bool :=
  let n := plainLength inFlow cur.rest
  if n == 0 || cur.next? == some '#' then ([], cur, newLine)
  else
    let word := spaces ++ cur.rest.take n
    match plainSpaces? (cur.advance n) with
    | (none, behind, ended) => (word, behind, ended)
    | (some more, behind, ended) =>
      if behind.next? == some '#' || (!inFlow && (behind.column : Int) < indent) then
        (word, behind, ended)
      else if _h : behind.rest.length < cur.rest.length then
        let r := plainFrom inFlow indent more ended behind
        (word ++ r.1, r.2)
      else (word, behind, ended)
termination_by cur.rest.length
decreasing_by exact _h

end Yaml
end SchemaAtlas
