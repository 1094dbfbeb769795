import SchemaAtlas.Statement.Basic
import SchemaAtlas.Statement.Parser
import SchemaAtlas.Text.Case

namespace SchemaAtlas

/-!
The kind of a statement, as a parser tells it from the head of the statement.

Insertions are known by the type of the statement alone.  Whatever creates or drops something
concerns a table where one of its first keywords says so.
-/

/-- What a statement does, as far as it matters for a schema. -/
inductive StatementKind where
  | createTable
  | insert
  | dropTable
  | other
deriving DecidableEq

namespace StatementKind

def label : StatementKind -> Text
  | .createTable => "CREATE_TABLE".toList
  | .insert => "INSERT".toList
  | .dropTable => "DROP_TABLE".toList
  | .other => "OTHER".toList

/-- One of the first four keywords names a table. -/
def concernsTable (tokens : List SqlToken) : Bool :=
  ((tokens.filter SqlToken.isKeyword).take 4).any fun t => Text.upper t.normalized == "TABLE".toList

def ofParsed (s : SqlStatement) : Except Text StatementKind :=
  let ifTable (kind : StatementKind) : Except Text StatementKind :=
    s.tokens.map fun tokens => if concernsTable tokens then kind else .other
  if s.type == "INSERT".toList then .ok .insert
  else if s.type == "CREATE".toList then ifTable .createTable
  else if s.type == "DROP".toList then ifTable .dropTable
  else .ok .other

/-- The kind that the head of a statement tells, or the message with which the parser gives up.  Of
several statements the first one counts. -/
def ofHead (parser : SqlParser) (head : Text) : Except Text StatementKind :=
  if Text.isBlankText head then .ok .other
  else
    match parser.parse head with
    | .error message => .error message
    | .ok [] => .ok .other
    | .ok (s :: _) => ofParsed s

/-- The kind of a statement, of which only the first characters are looked at. -/
def ofText (parser : SqlParser) (headLimit : Int) (text : Text) : Except Text StatementKind :=
  ofHead parser (sliceTo text headLimit)

end StatementKind
end SchemaAtlas
