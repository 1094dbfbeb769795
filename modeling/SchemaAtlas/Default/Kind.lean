import SchemaAtlas.Literal
import SchemaAtlas.Number.Numeral
import SchemaAtlas.Text.Phrase

namespace SchemaAtlas

/-!
The kinds of default values, told by their texts.
-/

/-- The kind of a default value. -/
inductive DefaultKind where
  | null
  | boolean
  | number
  | datetime
  | function
  | string
  | expression
deriving DecidableEq

namespace DefaultKind

/-- The name of a kind of default value. -/
def label : DefaultKind -> Text
  | .null => "null"
  | .boolean => "boolean"
  | .number => "number"
  | .datetime => "datetime"
  | .function => "function"
  | .string => "string"
  | .expression => "expression"

/-- The word for nothing, by itself and not inside a longer word. -/
def nullWord (before : Option Char) : Phrase Unit := do
  Phrase.wordStart before
  Phrase.letters "null".toList
  Phrase.wordEnd

/-- The word for nothing stands somewhere in the text. -/
def mentionsNull (t : Text) : Bool :=
  Phrase.occursAfter nullWord none t

/-- The text is a numeral, outer white space apart. -/
def isNumber (t : Text) : Bool :=
  (Numeral.ofText? (Text.trim t)).isSome

/-- The next characters follow a pattern in which a zero stands for any digit. -/
def fits : Text -> Text -> Bool
  | [], _ => true
  | _ :: _, [] => false
  | p :: ps, c :: cs => (if p == '0' then Text.isDecimalDigit c else p == c) && fits ps cs

def fitsSomewhere (pattern : Text) : Text -> Bool
  | [] => fits pattern []
  | c :: rest => fits pattern (c :: rest) || fitsSomewhere pattern rest

/-- A calendar date or a time of day stands somewhere in the text. -/
def isDatetime (t : Text) : Bool :=
  fitsSomewhere "0000-00-00".toList t || fitsSomewhere "00:00:00".toList t

/-- The clause that renews a time on every change. -/
def renewal : Phrase Unit := do
  Phrase.blanks1
  Phrase.keyword "on".toList
  Phrase.either (Phrase.keyword "update".toList) (Phrase.keyword "insert".toList)
  Phrase.letters "current_timestamp".toList

/-- A call ends here: nothing follows, or only the clause that renews a time. -/
def callEnd : Phrase Unit := do
  Phrase.optional renewal
  Phrase.atEnd

/-- Some closing parenthesis in the text is the end of a call. -/
def closesCall : Text -> Bool
  | [] => false
  | c :: rest => (c == ')' && Phrase.holds callEnd rest) || closesCall rest

def isFunctionChar (c : Char) : Bool :=
  Text.isWordChar c || c == '.'

/-- A name, then parentheses that close at the end. -/
def isCall : Text -> Bool
  | [] => false
  | c :: rest =>
    (Text.isLatinLetter c || c == '_') &&
      match Text.trimStart (rest.dropWhile isFunctionChar) with
      | '(' :: inside => closesCall inside
      | _ => false

/-- The names of the current time and date. -/
def clockWord : Phrase Unit :=
  Phrase.either (Phrase.letters "current_timestamp".toList)
    (Phrase.either (Phrase.letters "current_date".toList)
      (Phrase.either (Phrase.letters "current_time".toList)
        (Phrase.either (Phrase.letters "localtimestamp".toList)
          (Phrase.letters "localtime".toList))))

def clockReading : Phrase Unit := do
  clockWord
  callEnd

/-- The text calls a function or reads the clock. -/
def isFunction (t : Text) : Bool :=
  isCall t || Phrase.holds clockReading t

def isBitLiteral : Text -> Bool
  | [b, '\'', digit, '\''] => Text.sameLetter 'b' b && (digit == '0' || digit == '1')
  | _ => false

/-- The text begins with a truth value, or is one bit. -/
def isBoolean (t : Text) : Bool :=
  Phrase.holds (Phrase.either (Phrase.letters "true".toList) (Phrase.letters "false".toList)) t
    || isBitLiteral t

/-- The kind of a default value without outer white space.  Nothing comes before a number, a number
before a function, and so on down to an expression. -/
def ofTrimmed (t : Text) : DefaultKind :=
  if mentionsNull t then .null
  else if isNumber t then .number
  else if isFunction t then .function
  else if isDatetime t then .datetime
  else if isBoolean t then .boolean
  else if (Literal.enclosingQuote? t).isSome then .string
  else .expression

def ofText (t : Text) : DefaultKind :=
  ofTrimmed (Text.trim t)

end DefaultKind
end SchemaAtlas
