import SchemaAtlas.Failure
import SchemaAtlas.Table.Alias
import SchemaAtlas.Table.Element
import SchemaAtlas.Table.Header
import SchemaAtlas.Token.Scan

namespace SchemaAtlas
namespace Table

/-!
Table definitions.

The elements of a body are gathered into a draft.  A draft becomes a table when the names of key
columns and the counting column are settled, which needs all columns.
-/

/-- Why a definition gives no table. -/
inductive TableError where
  | headerMissing
  | nameEmpty
  | noColumns (table : Text)
deriving DecidableEq

namespace TableError

/-- The failure that reports show, with the text that was read. -/
def failure (e : TableError) (text : Text) : Failure :=
  match e with
  | .headerMissing => .reading .table "Не найден заголовок CREATE TABLE" none (some text) none
  | .nameEmpty => .reading .table "Пустое имя таблицы" none (some text) none
  | .noColumns table =>
    .reading .table ("В таблице ".toList ++ table ++ " не распознано ни одной колонки".toList)
      (some table) (some text) none

end TableError

/-- The elements of a body, put in order.  Columns come with the mark that they count by
themselves; a column whose name is there already is only remembered by its name. -/
structure Draft where
  columns : List (Column × Bool)
  keyNames : List Text
  foreignKeys : List ForeignKey
  constraints : Nat
  dropped : List Text
  repeated : List Text
deriving DecidableEq

namespace Draft

def empty : Draft := ⟨[], [], [], 0, [], []⟩

def hasColumn (d : Draft) (name : Text) : Bool :=
  d.columns.any fun entry => entry.1.key == Text.lower name

def add (d : Draft) (e : Element) : Draft :=
  match e with
  | .column r =>
    let referring := { d with foreignKeys := d.foreignKeys ++ r.references }
    if d.hasColumn r.column.name then { referring with repeated := d.repeated ++ [r.column.name] }
    else { referring with columns := d.columns ++ [(r.column, r.counts)] }
  | .primaryKey names =>
    { d with constraints := d.constraints + 1, keyNames := d.keyNames ++ names }
  | .foreignKey key =>
    { d with constraints := d.constraints + 1, foreignKeys := d.foreignKeys ++ key.toList }
  | .otherConstraint => { d with constraints := d.constraints + 1 }
  | .dropped text => { d with dropped := d.dropped ++ [text] }

def ofElements (elements : List Element) : Draft :=
  elements.foldl add empty

/-- The columns with those named as keys made key columns. -/
def keyed (d : Draft) : List (Column × Bool) :=
  d.columns.map fun entry =>
    if d.keyNames.any fun name => Text.lower name == entry.1.key then (entry.1.asKey, entry.2)
    else entry

def unknownKeys (d : Draft) : List Text :=
  d.keyNames.filter fun name => !d.hasColumn name

/-- The columns, of which the first marked one counts by itself where that is allowed. -/
def countFirst (allowed : Bool) : List (Column × Bool) -> List Column
  | [] => []
  | (c, marked) :: rest =>
    { c with autoIncrement := marked && allowed } :: countFirst (allowed && !marked) rest

/-- The table of the draft.  No column counts by itself where the key has several columns. -/
def entity (d : Draft) (name : QualifiedName) (index : Int) : Entity :=
  let keys := (d.keyed.map Prod.fst).filter Column.primaryKey
  { Entity.empty name.table index with
    columns := countFirst (keys.length ≤ 1) d.keyed
    primaryKey := PrimaryKey.ofNames (keys.map Column.name)
    schema := name.schema
    foreignKeys := d.foreignKeys }

end Draft

/-- The tokens between the parentheses of a body.  A body that is not closed goes to its end. -/
def bodyTokens (tokens : List Token) : List Token :=
  match Token.closingIndex? tokens 0 with
  | some n => (tokens.take n).drop 1
  | none => tokens.dropLast.drop 1

/-- A definition as it stands in a text: the name, the draft, and whether the body is closed. -/
structure Definition where
  name : QualifiedName
  draft : Draft
  closed : Bool
deriving DecidableEq

/-- The elements of a body that begins with its opening parenthesis. -/
def elements (body : Text) : List Element :=
  (Token.groups (bodyTokens (Token.scan body .keep))).map (readElement body)

/-- The definition in a text whose types are single words. -/
def definition (t : Text) : Except TableError Definition :=
  match header? t with
  | none => .error .headerMissing
  | some (spelled, body) =>
    let name := QualifiedName.ofText spelled
    if name.table.isEmpty then .error .nameEmpty
    else
      .ok ⟨name, Draft.ofElements (elements body),
        (Token.closingIndex? (Token.scan body .keep) 0).isSome⟩

/-- The definition has something in it: a column or a constraint. -/
def Definition.checked (d : Definition) : Except TableError Definition :=
  if d.draft.columns.isEmpty && d.draft.constraints == 0 then .error (.noColumns d.name.table)
  else .ok d

def ofText (sql : Text) (index : Int) : Except Failure Entity :=
  let t := unifyTypes sql
  match definition t with
  | .error e => .error (e.failure t)
  | .ok d =>
    match d.checked with
    | .error e => .error (e.failure t)
    | .ok d => .ok (d.draft.entity d.name index)

end Table
end SchemaAtlas
