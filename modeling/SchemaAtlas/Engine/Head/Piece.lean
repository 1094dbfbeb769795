import SchemaAtlas.Engine.Head.Vocabulary
import SchemaAtlas.Text.Digit
import SchemaAtlas.Text.Phrase

namespace SchemaAtlas
namespace Head

/-!
Pieces: the head of a statement cut into words, quoted texts, numbers and marks.

The forms of pieces stand in one list, and the first form that fits decides.  The list is written
for no single dialect: it knows the quotes and comments of all of them, words that belong together
(`NOT NULL`) make one piece, and a word next to a dot or in front of a parenthesis is a name even
if it is a keyword elsewhere.  A character that begins no form is a piece of its own.
-/

/-- What a piece is. -/
inductive PieceKind where
  | comment
  | blank
  | keyword
  | name
  | quotedName
  | typeName
  | placeholder
  | number
  | constant
  | operator
  | comparison
  | mark
  | unknown
deriving DecidableEq

/-- A piece of the head of a statement. -/
structure Piece where
  kind : PieceKind
  text : Text
deriving DecidableEq

namespace Piece

/-- The piece is one of some keywords, in any mixture of cases. -/
def isWord (p : Piece) (words : List String) : Bool :=
  p.kind == .keyword && words.contains (Text.asString (Text.upper p.text))

def isMark (p : Piece) (text : String) : Bool :=
  p.kind == .mark && p.text == text.toList

end Piece

/-! Characters and small forms. -/

/-- A letter that a plain name can begin with: Latin letters, with accents up to the u-umlaut. -/
def beginsName (c : Char) : Bool :=
  Text.isLatinLetter c || c == '\u212b'
    || Text.inIntervals [(0xC0, 0xDC), (0xE0, 0xF6), (0xF8, 0xFC)] c

def clingsToNumber (c : Char) : Bool :=
  c == '_' || beginsName c

/-- The place where the text satisfies a test. -/
def here (test : Text -> Bool) : Phrase Unit :=
  fun t => if test t then [((), t)] else []

/-- The place after a character that satisfies a test. -/
def after (before : Option Char) (test : Char -> Bool) : Phrase Unit :=
  here fun _ => before.any test

/-- The place after no character that satisfies a test. -/
def notAfter (before : Option Char) (test : Char -> Bool) : Phrase Unit :=
  here fun _ => !before.any test

/-- All characters that satisfy a test, none of them left. -/
def skip (test : Char -> Bool) : Phrase Unit :=
  fun t => [((), t.dropWhile test)]

/-- One character that satisfies a test. -/
def one (test : Char -> Bool) : Phrase Unit := do
  let _ <- Phrase.charWhere test
  Phrase.give ()

/-- A run of characters that satisfy a test, at least one of them. -/
def run (test : Char -> Bool) : Phrase Unit := do
  one test
  skip test

/-- One of several forms, the first one preferred. -/
def oneOf (forms : List (Phrase Unit)) : Phrase Unit :=
  fun t => forms.flatMap fun form => form t

/-- Words with white space between them. -/
def spelled : List String -> Phrase Unit
  | [] => Phrase.give ()
  | [w] => Phrase.letters w.toList
  | w :: ws => do
    Phrase.keyword w.toList
    spelled ws

/-- Whole words with white space between them. -/
def phrase (words : List String) : Phrase Unit := do
  spelled words
  Phrase.wordEnd

/-- A word and the white space after it, which may be left out together. -/
def leading (words : List String) : Phrase Unit :=
  Phrase.optional (oneOf (words.map fun w => Phrase.keyword w.toList))

/-! Comments and quoted texts. -/

def lineComment : Phrase Unit
  | '-' :: '-' :: rest => [((), rest.dropWhile fun c => c != '\n' && c != '\r')]
  | '#' :: ' ' :: rest => [((), rest.dropWhile fun c => c != '\n' && c != '\r')]
  | _ => []

/-- What follows the end mark of a block comment. -/
def blockEnd? : Text -> Option Text
  | [] => none
  | [_] => none
  | c :: d :: rest => if c == '*' && d == '/' then some rest else blockEnd? (d :: rest)

def blockComment : Phrase Unit
  | '/' :: '*' :: rest => (blockEnd? rest).toList.map fun t => ((), t)
  | _ => []

/-- What follows the quote that closes a quoted text.  A doubled quote goes on, and so does a quote
after a backslash where backslashes count; either of them closes the text where nothing else
does. -/
def afterQuote? (quote : Char) (escapes : Bool) : Text -> Option Text
  | [] => none
  | [c] => if c == quote then some [] else none
  | c :: d :: rest =>
    if c == quote then
      if d == quote then some ((afterQuote? quote escapes rest).getD (d :: rest))
      else some (d :: rest)
    else if escapes && c == '\\' && d == quote then
      (afterQuote? quote escapes rest).orElse fun _ => afterQuote? quote escapes (d :: rest)
    else afterQuote? quote escapes (d :: rest)

def quoted (quote : Char) (escapes : Bool) : Phrase Unit
  | [] => []
  | c :: rest =>
    if c == quote then (afterQuote? quote escapes rest).toList.map fun t => ((), t) else []

/-- What follows a beginning of a text that equals another text up to case. -/
def stripSame? : Text -> Text -> Option Text
  | [], t => some t
  | _ :: _, [] => none
  | a :: as, b :: bs => if Text.lowerChar a == Text.lowerChar b then stripSame? as bs else none

/-- What follows the first place of a text where a tag stands, up to case. -/
def afterTag? (tag : Text) : Text -> Option Text
  | [] => none
  | c :: rest =>
    match stripSame? tag (c :: rest) with
    | some t => some t
    | none => afterTag? tag rest

/-- The name inside the tag of a dollar-quoted text, which may be empty. -/
def tagName : Text -> Text
  | [] => []
  | c :: rest => if clingsToNumber c then c :: rest.takeWhile Text.isWordChar else []

/-- A text between two equal tags in dollar signs. -/
def dollarQuoted : Phrase Unit
  | '$' :: rest =>
    match rest.drop (tagName rest).length with
    | '$' :: body => (afterTag? ('$' :: tagName rest ++ ['$']) body).toList.map fun t => ((), t)
    | _ => []
  | _ => []

def bracketed : Phrase Unit := do
  Phrase.char '['
  run fun c => c != '[' && c != ']'
  Phrase.char ']'

/-! Names and numbers. -/

def plainName : Phrase Unit := do
  one beginsName
  skip Text.isWordChar

/-- A dot follows, with optional white space in front of it, and it begins no number. -/
def meetsDot (t : Text) : Bool :=
  match Text.trimStart t with
  | '.' :: d :: _ => !Text.isDecimalDigit d
  | ['.'] => true
  | _ => false

/-- Digits; fewer of them where the form asks for it. -/
def digits : Phrase Unit := do
  let _ <- Phrase.runWhere Text.isDecimalDigit
  Phrase.give ()

def minus : Phrase Unit :=
  Phrase.optional (Phrase.char '-')

def numberEnd : Phrase Unit :=
  here fun t => !t.head?.any clingsToNumber

def hexadecimal : Phrase Unit := do
  minus
  Phrase.letters "0x".toList
  run fun c => Text.isDecimalDigit c || ('a' ≤ c && c ≤ 'f') || ('A' ≤ c && c ≤ 'F')

def scientific : Phrase Unit := do
  minus
  digits
  Phrase.optional do
    Phrase.char '.'
    digits
  Phrase.letters "e".toList
  minus
  digits

def fractional : Phrase Unit := do
  minus
  Phrase.either
    (do
      digits
      Phrase.char '.'
      Phrase.optional digits)
    (do
      Phrase.char '.'
      digits)
  numberEnd

/-- A whole number. -/
def whole : Phrase Unit := do
  minus
  digits
  numberEnd

/-! Words. -/

def joinWords : Phrase Unit := do
  Phrase.either
    (do
      leading ["left", "right", "full"]
      leading ["inner", "outer", "straight"])
    (leading ["cross", "natural"])
  Phrase.letters "join".toList
  Phrase.wordEnd

def direction : Phrase Unit := do
  oneOf [spelled ["asc"], spelled ["desc"]]
  Phrase.optional do
    Phrase.blanks1
    oneOf [spelled ["nulls", "first"], spelled ["nulls", "last"]]
  Phrase.wordEnd

def blockEnd : Phrase Unit := do
  Phrase.letters "end".toList
  Phrase.optional do
    Phrase.blanks1
    oneOf [spelled ["if"], spelled ["loop"], spelled ["while"]]
  Phrase.wordEnd

/-- A creation, which may replace an object. -/
def creation : Phrase Unit := do
  Phrase.letters "create".toList
  Phrase.optional do
    Phrase.blanks1
    spelled ["or", "replace"]
  Phrase.wordEnd

/-- The condition that an object exists, or does not. -/
def existence : Phrase Unit := do
  Phrase.keyword "if".toList
  leading ["not"]
  phrase ["exists"]

/-- The end of a batch that is run several times. -/
def batchEnd : Phrase Unit := do
  Phrase.letters "go".toList
  one Text.isBlank
  digits
  Phrase.wordEnd

def lateralView : Phrase Unit := do
  Phrase.keyword "lateral".toList
  Phrase.keyword "view".toList
  oneOf (["explode", "inline", "parse_url_tuple", "posexplode", "stack"].map fun w => spelled [w])
  Phrase.wordEnd

def timeZone : Phrase Unit := do
  oneOf [spelled ["at"], spelled ["with'"]]
  Phrase.blanks1
  spelled ["time", "zone"]
  Phrase.blanks1
  Phrase.char '\''
  run (· != '\'')
  Phrase.char '\''

def likeness : Phrase Unit := do
  leading ["not"]
  oneOf [phrase ["like"], phrase ["ilike"], phrase ["rlike"], phrase ["regexp"]]

def percentPlaceholder : Phrase Unit := do
  Phrase.char '%'
  Phrase.optional do
    Phrase.char '('
    run Text.isWordChar
    Phrase.char ')'
  Phrase.letters "s".toList

/-- The sign of a temporary object or a variable. -/
def nameSign : Phrase Unit :=
  oneOf [spelled ["@"], spelled ["##"], spelled ["#"]]

def arrow : Phrase Unit :=
  oneOf (["->>", "->", "#>>", "#>", "@>", "<@", "-", "#-"].map fun w => spelled [w])

/-- What a word is that belongs to no longer form. -/
def wordKind (t : Text) : PieceKind :=
  let word := Text.asString (Text.upper t)
  if isKeyword word then .keyword
  else if typeWords.contains word then .typeName
  else if word == "DIV" then .operator
  else .name

/-! The list of all forms. -/

/-- A form of pieces, which may depend on the character before it, and what such a piece is. -/
structure Rule where
  form : Option Char -> Phrase Unit
  kind : Text -> PieceKind

/-- The rule that a form of one kind is, wherever it stands. -/
def Rule.plain (kind : PieceKind) (form : Phrase Unit) : Rule :=
  ⟨fun _ => form, fun _ => kind⟩

/-- The forms of pieces, in the order in which they are tried. -/
def rules : List Rule :=
  [.plain .comment lineComment,
   .plain .comment blockComment,
   .plain .blank (one Text.isBlank),
   .plain .mark (oneOf [spelled [":="], spelled ["::"]]),
   .plain .operator (Phrase.char '*'),
   .plain .name (quoted '\x60' false),
   .plain .name (quoted '\u00b4' false),
   ⟨fun before => do
      notAfter before fun c => Text.isWordChar c || c == '"' || c == '$'
      dollarQuoted, fun _ => .constant⟩,
   .plain .placeholder (Phrase.char '?'),
   .plain .placeholder percentPlaceholder,
   ⟨fun before => do
      notAfter before Text.isWordChar
      one fun c => c == '$' || c == ':'
      run Text.isWordChar, fun _ => .placeholder⟩,
   .plain .unknown (do
      Phrase.char '\\'
      run Text.isWordChar),
   .plain .keyword
      (oneOf (["case", "in", "values", "using", "from", "as"].map fun w => phrase [w])),
   .plain .name (do
      nameSign
      one beginsName
      run Text.isWordChar),
   .plain .name (do
      plainName
      here meetsDot),
   ⟨fun before => do
      after before (· == '.')
      plainName, fun _ => .name⟩,
   .plain .name (do
      plainName
      here fun t => t.head? == some '('),
   .plain .number hexadecimal,
   .plain .number scientific,
   .plain .number fractional,
   .plain .number whole,
   .plain .constant (quoted '\'' true),
   .plain .quotedName (quoted '"' true),
   ⟨fun before => do
      notAfter before fun c => Text.isWordChar c || c == ']' || c == ')'
      bracketed, fun _ => .name⟩,
   .plain .keyword joinWords,
   .plain .keyword blockEnd,
   .plain .keyword (phrase ["not", "null"]),
   .plain .keyword direction,
   .plain .keyword (oneOf [phrase ["nulls", "first"], phrase ["nulls", "last"]]),
   .plain .keyword (phrase ["union", "all"]),
   .plain .keyword creation,
   .plain .keyword existence,
   .plain .typeName (phrase ["double", "precision"]),
   .plain .keyword (phrase ["group", "by"]),
   .plain .keyword (phrase ["order", "by"]),
   .plain .keyword (phrase ["primary", "key"]),
   .plain .keyword (phrase ["handler", "for"]),
   .plain .keyword batchEnd,
   .plain .keyword lateralView,
   .plain .keyword timeZone,
   .plain .comparison likeness,
   ⟨fun _ => do
      one Text.isWordChar
      skip fun c => Text.isWordChar c || c == '$' || c == '#', wordKind⟩,
   .plain .mark (one fun c => ";:()[],.".toList.contains c),
   .plain .operator arrow,
   .plain .comparison (run fun c => "<>=~!".toList.contains c),
   .plain .operator (run fun c => "+/@#%^&|-".toList.contains c)]

/-- The first rule that a text fits, with what follows its form. -/
def firstRule? (before : Option Char) (t : Text) : Option (Rule × Text) :=
  rules.findSome? fun rule => (rule.form before t).head?.map fun reading => (rule, reading.2)

/-- The piece at the beginning of a text that is not empty, and what follows it. -/
def cut (before : Option Char) (c : Char) (rest : Text) : Piece × Text :=
  match firstRule? before (c :: rest) with
  | some (rule, behind) =>
    let text := (c :: rest).take ((c :: rest).length - behind.length)
    (⟨rule.kind text, text⟩, behind)
  | none => (⟨.unknown, [c]⟩, rest)

/-- The first piece that is neither white space nor a comment, in a text after a character. -/
def firstFrom? (before : Option Char) (t : Text) : Option Piece :=
  match t with
  | [] => none
  | c :: rest =>
    let next := cut before c rest
    if next.1.kind == .blank || next.1.kind == .comment then
      if _h : next.2.length < (c :: rest).length then
        firstFrom? next.1.text.getLast? next.2
      else none
    else some next.1
termination_by t.length
decreasing_by exact _h

/-- The first piece of a text that is neither white space nor a comment. -/
def first? (t : Text) : Option Piece :=
  firstFrom? none t

end Head
end SchemaAtlas
