import SchemaAtlas.Script.Read
import SchemaAtlas.Source.Database
import SchemaAtlas.Source.Utf8

namespace SchemaAtlas
namespace Source

/-!
What a source holds: a script, or a database, which is known by its first bytes.
-/

/-- The contents of a source. -/
inductive Content where
  | script (text : Text)
  | database
deriving DecidableEq

/-- The bytes at the beginning of every database. -/
def signature : List UInt8 :=
  [0x53, 0x51, 0x4C, 0x69, 0x74, 0x65, 0x20, 0x66, 0x6F, 0x72, 0x6D, 0x61, 0x74, 0x20, 0x33, 0x00]

def isDatabase (bytes : List UInt8) : Bool :=
  signature.isPrefixOf bytes

def decodingFailure (name : Option Text) (v : Utf8.Violation) : Failure :=
  let shownName := match name with
    | some (c :: cs) => c :: cs
    | _ => "<bytes>"
  Failure.source
    ("Источник ".toList ++ shownName ++ " не является текстом UTF-8: ".toList ++ v.message)
    name (some "decode")

namespace Content

def ofBytes (name : Option Text) (bytes : List UInt8) : Except Failure Content :=
  if isDatabase bytes then .ok .database
  else
    match Utf8.decode bytes with
    | .ok text => .ok (.script text)
    | .error v => .error (decodingFailure name v)

/-- The report on a source.  The database is the one at the path. -/
def read (parser : SqlParser) (options : ScriptOptions) (database : Database) (path : Text)
    (reverse : Option Bool) : Content -> Except Fault ParseReport
  | .script text => Script.read parser options text reverse
  | .database => (database.read options.depth path reverse).mapError Fault.failure

end Content
end Source
end SchemaAtlas
