import SchemaAtlas.Text.Case
import SchemaAtlas.Value.Display

namespace SchemaAtlas
namespace Log

/-!
Lines of the log, and which of them are shown.

A line is shown when it is at least as severe as the threshold that the settings name.  The lines
are values beside the results, so nothing that is read or written depends on them.
-/

/-- How severe a line is. -/
inductive Level where
  | debug
  | info
  | warning
  | error
deriving DecidableEq

namespace Level

def label : Level -> Text
  | .debug => "DEBUG"
  | .info => "INFO"
  | .warning => "WARNING"
  | .error => "ERROR"

def severity : Level -> Nat
  | .debug => 10
  | .info => 20
  | .warning => 30
  | .error => 40

end Level

/-- The part of the program that a line comes from. -/
inductive Origin where
  | commandLine
  | source
  | splitting
  | script
  | table
  | rows
  | depth
  | definitions
deriving DecidableEq

namespace Origin

def label : Origin -> Text
  | .commandLine => "sqlschema"
  | .source => "sqlschema.loader"
  | .splitting => "sqlschema.parser.splitter"
  | .script => "sqlschema.parser.schema_parser"
  | .table => "sqlschema.parser.table_parser"
  | .rows => "sqlschema.parser.row_tokenizer"
  | .depth => "sqlschema.graph.depth"
  | .definitions => "sqlschema.conversion.converter"

end Origin

/-- One line of the log. -/
structure Line where
  origin : Origin
  level : Level
  message : Text
deriving DecidableEq

namespace Line

def text (l : Line) : Text :=
  l.origin.label ++ " - ".toList ++ l.level.label ++ " - ".toList ++ l.message ++ ['\n']

end Line

/-- The severities that settings may name. -/
def thresholds : Keyed Nat :=
  [("NOTSET", 0), ("DEBUG", 10), ("INFO", 20), ("WARNING", 30), ("WARN", 30), ("ERROR", 40),
   ("CRITICAL", 50), ("FATAL", 50)]

def usualThreshold : Nat := 20

/-- The threshold that settings name, whatever the case of the name.  A name that is not
known means the usual one. -/
def threshold (settings : Keyed Value) : Nat :=
  let name := ((Keyed.get? "logging" settings).getD .null).getD "level" (.text "INFO")
  (Keyed.get? (Text.upper name.display) thresholds).getD usualThreshold

/-- The lines that are severe enough, as they are shown. -/
def shown (threshold : Nat) (lines : List Line) : Text :=
  (lines.filter fun l => threshold ≤ l.level.severity).flatMap Line.text

/-- The thresholds in force: that of everything on the console, and that of the program. -/
structure Thresholds where
  root : Nat
  program : Nat
deriving DecidableEq

/-- The thresholds after the program has set its own.  The one of the console is only ever lowered,
from that of warnings where none is in force. -/
def lowered (root : Nat) (settings : Keyed Value) : Thresholds :=
  let own := threshold settings
  ⟨min (if root == 0 then Level.severity .warning else root) own, own⟩

end Log
end SchemaAtlas
