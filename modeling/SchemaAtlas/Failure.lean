import SchemaAtlas.Text.Slice
import SchemaAtlas.Value.Display

namespace SchemaAtlas

/-!
Failures: what went wrong, in a form that reports can show.

Every failure has a kind with a code, a message and details.  Details that are missing or empty are
not shown.  A `Fault` is anything that stops an operation: a failure, or one of the few conditions
that no report describes, among them the messages with which an outside parser gives up.
-/

/-- What a failure concerns. -/
inductive FailureKind where
  | general
  | statement
  | table
  | insertion
  | dialect
  | settings
  | source
deriving DecidableEq

namespace FailureKind

def code : FailureKind -> Text
  | .general => "UNKNOWN"
  | .statement => "PARSING_ERROR"
  | .table => "TABLE_PARSING_ERROR"
  | .insertion => "INSERT_PARSING_ERROR"
  | .dialect => "UNSUPPORTED_DIALECT"
  | .settings => "CONFIGURATION_ERROR"
  | .source => "SOURCE_READ_ERROR"

end FailureKind

/-- A failure with its message and details. -/
structure Failure where
  kind : FailureKind
  message : Text
  code : Text := kind.code
  details : Keyed Value := []

/-- What stops an operation. -/
inductive Fault where
  | failure (f : Failure)
  | tooManyDigits
  | headLimitNotWhole
  | unknownFormat (format : Text)
  | outside (message : Text)

namespace Failure

/-- A detail worth showing: neither missing nor an empty text. -/
def isShown (detail : Text × Value) : Bool :=
  match detail.2 with
  | .null => false
  | .text [] => false
  | _ => true

def shown (details : Keyed Value) : Keyed Value :=
  details.filter isShown

/-- The longest piece of a statement that details hold. -/
def fragmentLimit : Nat := 200

/-- A statement of one of the kinds that could not be read. -/
def reading (kind : FailureKind) (message : Text) (table fragment : Option Text)
    (position : Option Int) : Failure where
  kind := kind
  message := message
  details := shown
    [("table_name", Value.ofOption Value.text table),
     ("sql_fragment", Value.ofOption (fun t => Value.text (t.take fragmentLimit)) fragment),
     ("position", Value.ofOption Value.int position)]

def unsupportedDialect (name : Value) (supported : List Text) : Failure where
  kind := .dialect
  message := "Неподдерживаемый диалект: " ++ name.display
  details := shown
    [("dialect", name),
     ("supported", if supported.isEmpty then .null else Value.ofTexts supported)]

def settings (message : Text) (key value : Value) : Failure where
  kind := .settings
  message := message
  details := shown [("config_key", key), ("config_value", value)]

def source (message : Text) (path operation : Option Text) : Failure where
  kind := .source
  message := message
  details := shown
    [("file_path", Value.ofOption Value.text path),
     ("operation", Value.ofOption Value.text operation)]

def summary (f : Failure) : Text :=
  "[".toList ++ f.code ++ "] ".toList ++ f.message

def record (f : Failure) : Keyed Value :=
  [("error", .text f.message), ("code", .text f.code), ("details", .mapping f.details)]

/-- An outside condition, known by the name of its type, as reports show it. -/
def outsideRecord (typeName message : Text) : Keyed Value :=
  [("error", .text message), ("code", .text "UNKNOWN_ERROR"),
   ("details", .mapping [("exception_type", .text typeName)])]

/-- The message of an outside condition with arguments: none is empty, one is shown by itself, and
several are shown together. -/
def outsideMessage (showOne : Value -> Text) : List Value -> Text
  | [] => []
  | [v] => showOne v
  | vs => '(' :: Text.join ", ".toList (Value.innerItems vs) ++ [')']

end Failure
end SchemaAtlas
