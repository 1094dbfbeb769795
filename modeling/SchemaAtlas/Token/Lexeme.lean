import SchemaAtlas.Text.Blank
import SchemaAtlas.Text.Digit
import SchemaAtlas.Token.Vocabulary

namespace SchemaAtlas

/-!
Lexemes: the pieces into which a text is cut.

A rule looks at the first character of a text and at what follows, and says how many of the
following characters belong to the piece.  So every piece holds at least its first character, and
cutting always comes to an end.
-/

/-- The class of a piece of text. -/
inductive LexemeKind where
  | comment
  | blank
  | word
  | token (kind : TokenKind)
deriving DecidableEq

namespace Lexeme

/-- The number of characters up to and including the end mark of a block comment. -/
def commentEnd? : Text -> Option Nat
  | [] => none
  | [_] => none
  | c :: d :: rest =>
    if c == '*' && d == '/' then some 2 else (commentEnd? (d :: rest)).map (· + 1)

/-- The further characters of a comment: a line comment goes to the end of its line, a block
comment to its end mark. -/
def comment? (c : Char) (rest : Text) : Option Nat :=
  match rest with
  | d :: after =>
    if c == '-' && d == '-' then some (1 + (after.takeWhile (· != '\n')).length)
    else if c == '/' && d == '*' then (commentEnd? after).map (1 + ·)
    else none
  | [] => none

/-- The number of characters up to and including the quote that closes a literal.  A doubled quote
goes on, and so does a backslash with the character after it where backslashes count, unless a
line ends there.  Where the literal finds no other end, the first quote of the last pair closes
it. -/
def quoteEnd? (quote : Char) (escapes : Bool) : Text -> Option Nat
  | [] => none
  | [c] => if c == quote then some 1 else none
  | c :: d :: rest =>
    if c == quote then
      if d == quote then some (((quoteEnd? quote escapes rest).map (· + 2)).getD 1) else some 1
    else if escapes && c == '\\' then
      if d == '\n' then none else (quoteEnd? quote escapes rest).map (· + 2)
    else (quoteEnd? quote escapes (d :: rest)).map (· + 1)

/-- The further characters of a name in brackets, which stays on one line. -/
def bracketEnd? (rest : Text) : Option Nat :=
  let body := rest.takeWhile fun c => c != ']' && c != '\n'
  match rest.drop body.length with
  | c :: _ => if c == ']' then some (body.length + 1) else none
  | [] => none

/-- The further characters of a string literal or a quoted name, with its kind. -/
def quotedPiece? (c : Char) (rest : Text) : Option (TokenKind × Nat) :=
  if c == '\'' then (quoteEnd? '\'' true rest).map fun n => (.string, n)
  else if c == '"' then (quoteEnd? '"' true rest).map fun n => (.quotedIdentifier, n)
  else if c == '\x60' then (quoteEnd? '\x60' false rest).map fun n => (.quotedIdentifier, n)
  else if c == '[' then (bracketEnd? rest).map fun n => (.quotedIdentifier, n)
  else none

/-- The number of decimal digits at the beginning of a text. -/
def digitCount (t : Text) : Nat :=
  (t.takeWhile Text.isDecimalDigit).length

/-- An exponent at the beginning of a text: the length of its mark and sign, and
the number of its digits. -/
def exponentParts? : Text -> Option (Nat × Nat)
  | [] => none
  | c :: rest =>
    if c == 'e' || c == 'E' then
      let signs := match rest with
        | d :: _ => if d == '+' || d == '-' then 1 else 0
        | [] => 0
      let digits := digitCount (rest.drop signs)
      if digits == 0 then none else some (1 + signs, digits)
    else none

/-- The length of an exponent at the beginning of a text, zero if there is none. -/
def exponentLength (t : Text) : Nat :=
  match exponentParts? t with
  | some (mark, digits) => mark + digits
  | none => 0

/-- A letter or an underscore, which cannot follow a whole number. -/
def joinsNumber (c : Char) : Bool :=
  Text.isLatinLetter c || c == '_'

/-- Some character that cannot follow a whole number stands here. -/
def barred (t : Text) : Bool :=
  match t with
  | c :: _ => joinsNumber c
  | [] => false

/-- The length of a number without a decimal point, given the count of its first digits.  Where a
letter follows, the last digit of the exponent or of the number is given up to it. -/
def wholeNumber? (t : Text) (digits : Nat) : Option Nat :=
  let after := t.drop digits
  let shorter := if 2 ≤ digits then some (digits - 1) else none
  match exponentParts? after with
  | some (mark, count) =>
    if !barred (after.drop (mark + count)) then some (digits + mark + count)
    else if 2 ≤ count then some (digits + mark + count - 1)
    else shorter
  | none => if barred after then shorter else some digits

/-- The length of the number at the beginning of a text. -/
def number? (t : Text) : Option Nat :=
  let digits := digitCount t
  match t.drop digits with
  | c :: after =>
    if c == '.' && (0 < digits || 0 < digitCount after) then
      let pointed := digits + 1 + digitCount after
      some (pointed + exponentLength (t.drop pointed))
    else if 0 < digits then wholeNumber? t digits
    else none
  | [] => if 0 < digits then wholeNumber? t digits else none

def isDoubleOperator (c d : Char) : Bool :=
  (c == ':' && d == ':') || (c == '<' && d == '=') || (c == '>' && d == '=')
    || (c == '<' && d == '>') || (c == '!' && d == '=') || (c == '|' && d == '|')

def operatorLength (c : Char) (rest : Text) : Nat :=
  match rest with
  | d :: _ => if isDoubleOperator c d then 1 else 0
  | [] => 0

def punctuation? (c : Char) : Option TokenKind :=
  if c == ',' then some .comma
  else if c == '.' then some .dot
  else if c == ';' then some .semicolon
  else if c == '(' then some .openParen
  else if c == ')' then some .closeParen
  else none

def isBareChar (c : Char) : Bool :=
  Text.isLatinLetter c || c == '_' || c == '$' || c.isDigit

/-- The class of the piece that begins with a character, and the number of its further characters.
Comments come before operators and numbers before words; a character that begins nothing else is
an operator by itself. -/
def cut (c : Char) (rest : Text) : LexemeKind × Nat :=
  match comment? c rest with
  | some n => (.comment, n)
  | none =>
    if Text.isBlank c then (.blank, (rest.takeWhile Text.isBlank).length)
    else
      match quotedPiece? c rest with
      | some (kind, n) => (.token kind, n)
      | none =>
        match number? (c :: rest) with
        | some n => (.token .number, n - 1)
        | none =>
          match punctuation? c with
          | some kind => (.token kind, 0)
          | none =>
            if isBareChar c then (.word, (rest.takeWhile isBareChar).length)
            else (.token .operator, operatorLength c rest)

end Lexeme
end SchemaAtlas
