import SchemaAtlas.Statement.Basic
import SchemaAtlas.Text.Phrase

namespace SchemaAtlas
namespace Statement

/-!
Splitting a script into statements.

The script is read line by line.  A statement ends when the lines gathered so far end with the
active delimiter; comment lines are left out, and a directive line changes the delimiter for the
statements that follow.
-/

/-- The text with every kind of line break written as a line feed. -/
def unifyBreaks : Text -> Text
  | [] => []
  | '\r' :: '\n' :: rest => '\n' :: unifyBreaks rest
  | c :: rest => (if c == '\r' then '\n' else c) :: unifyBreaks rest

/-- The lines of a script without outer white space. -/
def trimmedLines (script : Text) : List Text :=
  (Text.splitOn '\n' (unifyBreaks script)).map Text.trim

/-- The delimiter that a directive line sets. -/
def directive? (line : Text) : Option Text :=
  match Phrase.keyword "delimiter".toList line with
  | (_, rest) :: _ =>
    if !rest.isEmpty && rest.all (fun c => !Text.isBlank c) then some rest else none
  | [] => none

/-- A line that holds only a comment inside a statement. -/
def isCommentLine (line : Text) : Bool :=
  line == "--".toList || Text.startsWith line "-- ".toList

/-- A line that means nothing between statements. -/
def isIdleLine (line : Text) : Bool :=
  line.isEmpty || Text.startsWith line "--".toList

/-- The state between two lines: the statements found so far, the lines of the statement that is
open with the number of its first line, the active delimiter, the number of lines read, and the
lines of directives that cut an open statement short. -/
structure Progress where
  found : List Statement
  gathered : List Text
  firstLine : Nat
  delimiter : Text
  linesRead : Nat
  interruptions : List Nat
deriving DecidableEq

namespace Progress

def start (delimiter : Text) : Progress :=
  ⟨[], [], 1, delimiter, 0, []⟩

/-- A finished statement joins the others, unless it is blank. -/
def close (p : Progress) (body : Text) : Progress :=
  let text := Text.trim body
  { p with
    found := if text.isEmpty then p.found
      else p.found ++ [⟨text, p.delimiter, p.found.length, p.firstLine⟩]
    gathered := [] }

/-- The lines gathered so far as one text. -/
def openText (p : Progress) : Text :=
  Text.join ['\n'] p.gathered

/-- A directive line ends an open statement and changes the delimiter. -/
def redirect (p : Progress) (delimiter : Text) : Progress :=
  if p.gathered.isEmpty then { p with delimiter := delimiter }
  else
    { p.close p.openText with
      delimiter := delimiter
      interruptions := p.interruptions ++ [p.linesRead] }

/-- A line joins the open statement, and ends it where the delimiter stands at its end. -/
def gather (p : Progress) (line : Text) : Progress :=
  let q := { p with
    firstLine := if p.gathered.isEmpty then p.linesRead else p.firstLine
    gathered := p.gathered ++ [line] }
  let whole := Text.trimEnd q.openText
  if Text.endsWith whole q.delimiter then
    q.close (if q.delimiter.isEmpty then [] else whole.take (whole.length - q.delimiter.length))
  else q

def readLine (before : Progress) (line : Text) : Progress :=
  let p := { before with linesRead := before.linesRead + 1 }
  if (if p.gathered.isEmpty then isIdleLine line else isCommentLine line) then p
  else
    match directive? line with
    | some delimiter => p.redirect delimiter
    | none => p.gather line

/-- The end of the script ends a statement that is still open. -/
def finish (p : Progress) : List Statement :=
  if p.gathered.isEmpty then p.found else (p.close p.openText).found

end Progress

/-- The state after the last line of a script. -/
def readLines (delimiter script : Text) : Progress :=
  (trimmedLines script).foldl Progress.readLine (Progress.start delimiter)

def split (delimiter script : Text) : List Statement :=
  (readLines delimiter script).finish

end Statement
end SchemaAtlas
