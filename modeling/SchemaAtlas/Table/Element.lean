import SchemaAtlas.Default.Normal
import SchemaAtlas.Dialect.ColumnType
import SchemaAtlas.Name.Qualified
import SchemaAtlas.Table.Entity
import SchemaAtlas.Token.Group

namespace SchemaAtlas
namespace Table

/-!
The elements of a table body: columns, keys, references, and what is passed over.
-/

/-- The tokens up to the parenthesis that closes an open one, or all where none does. -/
def insideParens (afterOpening : List Token) : List Token :=
  match Token.closingOffset? 1 afterOpening with
  | some n => afterOpening.take n
  | none => afterOpening

/-- The tokens behind the parenthesis that closes an open one, if any. -/
def afterParens (afterOpening : List Token) : List Token :=
  match Token.closingOffset? 1 afterOpening with
  | some n => afterOpening.drop (n + 1)
  | none => []

theorem afterParens_length_le (tokens : List Token) :
    (afterParens tokens).length ≤ tokens.length := by
  unfold afterParens
  split <;> simp

/-- The tokens without a parenthesised group at their beginning. -/
def skipParens : List Token -> List Token
  | [] => []
  | t :: rest => if t.kind == .openParen then afterParens rest else t :: rest

theorem skipParens_length_le (tokens : List Token) :
    (skipParens tokens).length ≤ tokens.length := by
  cases tokens with
  | nil => simp [skipParens]
  | cons t rest =>
    have shorter := afterParens_length_le rest
    simp only [skipParens]
    split <;> simp only [List.length_cons] <;> omega

def nextWord : List Token -> Text
  | [] => []
  | t :: _ => t.word

/-- The first names of the groups in parentheses.  Groups that begin with a literal
or a number name nothing. -/
def nameList (afterOpening : List Token) : List Text :=
  (Token.groups (insideParens afterOpening)).filterMap fun group =>
    match group with
    | [] => none
    | t :: _ =>
      if t.kind == .string || t.kind == .number then none else some (Name.stripQuotes t.value)

/-- The names in the first parentheses among the tokens. -/
def nameListIn (tokens : List Token) : List Text :=
  match tokens.dropWhile fun t => t.kind != .openParen with
  | _ :: rest => nameList rest
  | [] => []

/-- The tokens of a qualified name, and the tokens behind it.  `free` says that
a new part may begin. -/
def qualifiedTokens (free : Bool) : List Token -> List Token × List Token
  | [] => ([], [])
  | t :: rest =>
    if t.kind == .dot || (free && (t.isName || t.isReserved)) then
      let (more, after) := qualifiedTokens (t.kind == .dot) rest
      (t :: more, after)
    else ([], t :: rest)

/-- The reference that begins behind its keyword, from the given columns. -/
def reference? (columns : List Text) (tokens : List Token) : Option ForeignKey :=
  let (name, rest) := qualifiedTokens true tokens
  let table := (QualifiedName.ofText (name.flatMap Token.value)).table
  if table.isEmpty then none
  else
    let refColumns := match rest with
      | t :: after => if t.kind == .openParen then nameList after else []
      | [] => []
    some ⟨columns, table, refColumns⟩

/-- The words that end the expression of a default value. -/
def endsDefault : List Text :=
  ["COMMENT", "PRIMARY", "UNIQUE", "AUTO_INCREMENT", "AUTOINCREMENT", "REFERENCES", "CHECK",
   "CONSTRAINT", "COLLATE", "GENERATED", "IDENTITY"]

/-- The number of tokens that the expression of a default value takes.  It ends, outside
parentheses, at a word that begins another attribute. -/
def defaultLength (depth : Int) (isFirst : Bool) : List Token -> Nat
  | [] => 0
  | t :: rest =>
    let word := t.word
    if depth == 0 && (endsDefault.contains word
        || (word == "NOT".toList && nextWord rest == "NULL".toList)
        || (word == "NULL".toList && !isFirst)) then 0
    else 1 + defaultLength (depth + Token.nesting t) false rest

/-- The piece of a text that some tokens take up, without outer white space. -/
def spannedText? (body : Text) (tokens : List Token) : Option Text :=
  match tokens with
  | [] => none
  | t :: rest =>
    some (Text.trim ((body.take ((t :: rest).getLastD t).stop).drop t.place.position))

/-- What the attributes of a column say. -/
structure Attributes where
  nullable : Bool
  inlineKey : Bool
  autoIncrement : Bool
  default : Option Text
  comment : Option Text
  references : List ForeignKey
deriving DecidableEq

/-- The words that make a column count by itself. -/
def countsItself : List Text :=
  ["AUTO_INCREMENT", "AUTOINCREMENT", "IDENTITY"]

/-- The default value draws numbers from a sequence. -/
def drawsNumbers (default : Option Text) : Bool :=
  match default with
  | some t => Text.has "NEXTVAL".toList (Text.upper t)
  | none => false

/-- The attributes that some tokens add to those already read. -/
def readAttributes (body name : Text) (a : Attributes) (tokens : List Token) : Attributes :=
  match tokens with
  | [] => a
  | t :: rest =>
    let word := t.word
    if word == "NOT".toList && nextWord rest == "NULL".toList then
      readAttributes body name { a with nullable := false } (rest.drop 1)
    else if word == "PRIMARY".toList && nextWord rest == "KEY".toList then
      readAttributes body name { a with inlineKey := true } (rest.drop 1)
    else if countsItself.contains word then
      readAttributes body name { a with autoIncrement := true } (skipParens rest)
    else if word == "DEFAULT".toList then
      let size := defaultLength 0 true rest
      let default := spannedText? body (rest.take size)
      readAttributes body name
        { a with
          default := default
          autoIncrement := a.autoIncrement || drawsNumbers default }
        (rest.drop size)
    else if word == "COMMENT".toList && (rest.head?.map Token.kind) == some .string then
      readAttributes body name
        { a with comment := rest.head?.map fun s => Text.trim (Literal.unquote s.value) }
        (rest.drop 1)
    else if word == "REFERENCES".toList then
      readAttributes body name
        { a with references := a.references ++ (reference? [name] rest).toList } rest
    else if t.kind == .openParen then readAttributes body name a (afterParens rest)
    else readAttributes body name a rest
termination_by tokens.length
decreasing_by
  all_goals
    have skipped := skipParens_length_le rest
    have behind := afterParens_length_le rest
    simp only [List.length_cons, List.length_drop]
    omega

def serialTypes : List Text :=
  ["SERIAL", "SERIAL4", "SERIAL8", "BIGSERIAL", "SMALLSERIAL"]

/-- The values of a list type: single literals without quotes, anything else as it is written. -/
def enumValues (params : List Token) : List Text :=
  (Token.groups params).map fun group =>
    match group with
    | [t] => Literal.unquote t.value
    | ts => ts.flatMap Token.value

def typeParams : List Token -> Option (List Token) × List Token
  | [] => (none, [])
  | t :: rest =>
    if t.kind == .openParen then (some (insideParens rest), afterParens rest)
    else (none, t :: rest)

/-- The length and the values that the parameters of a type give. -/
def sizeAndValues (base : Text) : Option (List Token) -> Option Text × Option (List Text)
  | none => (none, none)
  | some params =>
    if TypeText.isValueList base then (none, some (enumValues params))
    else
      match params.flatMap Token.value with
      | [] => (none, none)
      | d :: ds =>
        (some (d :: ds),
         if Dialect.isPrecise base then some (Dialect.numericParams (d :: ds)) else none)

/-- A column as its element declares it. -/
structure ColumnReading where
  column : Column
  counts : Bool
  references : List ForeignKey
deriving DecidableEq

/-- The column that an element declares by its name, its type, and the tokens behind them. -/
def readColumn (body : Text) (nameToken typeToken : Token) (rest : List Token) : ColumnReading :=
  let name := Name.stripQuotes nameToken.value
  let base := Text.upper (Name.stripQuotes typeToken.value)
  let (params, tokens) := typeParams rest
  let (length, values) := sizeAndValues base params
  let a := readAttributes body name ⟨true, false, serialTypes.contains base, none, none, []⟩ tokens
  { column := Column.settled
      { name := name
        baseType := base
        length := length
        nullable := a.nullable
        default := Default.normal? a.default base length
        primaryKey := a.inlineKey
        autoIncrement := false
        enumValues := values
        comment := a.comment }
    counts := a.autoIncrement
    references := a.references }

/-- An element of a table body. -/
inductive Element where
  | column (reading : ColumnReading)
  | primaryKey (names : List Text)
  | foreignKey (key : Option ForeignKey)
  | otherConstraint
  | dropped (text : Text)
deriving DecidableEq

def constraintWords : List Text :=
  ["PRIMARY", "UNIQUE", "KEY", "INDEX", "CONSTRAINT", "FOREIGN", "CHECK", "FULLTEXT", "SPATIAL",
   "EXCLUDE"]

/-- An index may be named like a type.  It is told from a column by a quoted name, or by names
inside the parentheses, where a type has numbers and literals only. -/
def isIndex (head name : Token) (rest : List Token) : Bool :=
  if head.kind == .quotedIdentifier || !constraintWords.contains head.upper then false
  else if name.kind == .quotedIdentifier then true
  else
    match rest with
    | t :: after =>
      t.kind == .openParen && (insideParens after).any fun u => u.isName || u.isReserved
    | [] => false

def neverColumns : List Text :=
  ["PRIMARY", "CONSTRAINT", "FOREIGN", "CHECK"]

/-- An element that declares a column: a name and a known type. -/
def isColumn (head second : Token) (rest : List Token) : Bool :=
  !neverColumns.contains head.upper && (head.isName || head.isReserved)
    && !isIndex head second rest && Token.isTypeName (Name.stripQuotes second.value)

def readConstraint (tokens : List Token) : Element :=
  let words := (tokens.take 2).map Token.upper
  if words == ["PRIMARY".toList, "KEY".toList] then .primaryKey (nameListIn (tokens.drop 2))
  else if words == ["FOREIGN".toList, "KEY".toList] then
    match tokens.dropWhile fun t => t.upper != "REFERENCES".toList with
    | _ :: rest => .foreignKey (reference? (nameListIn (tokens.drop 2)) rest)
    | [] => .foreignKey none
  else .otherConstraint

def readOther (tokens : List Token) : Element :=
  match tokens with
  | [] => .dropped []
  | head :: _ =>
    if head.upper == "CONSTRAINT".toList && 2 < tokens.length then readConstraint (tokens.drop 2)
    else if constraintWords.contains head.upper then readConstraint tokens
    else .dropped (Text.join [' '] ((tokens.take 3).map Token.value))

/-- The element that a group of tokens declares. -/
def readElement (body : Text) : List Token -> Element
  | head :: second :: rest =>
    if isColumn head second rest then .column (readColumn body head second rest)
    else readOther (head :: second :: rest)
  | tokens => readOther tokens

end Table
end SchemaAtlas
