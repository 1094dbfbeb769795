import SchemaAtlas.CommandLine.Arguments
import SchemaAtlas.Log.Reading
import SchemaAtlas.Settings.Load
import SchemaAtlas.Source.Content
import SchemaAtlas.Source.Files

namespace SchemaAtlas
namespace CommandLine

/-!
A run of the program as a function: from files, a database, a clock, outside parsers and arguments
to what is shown, what is written, and the exit status.
-/

/-- How files are read. -/
abbrev Reader := Path -> Except FileError (List UInt8)

/-- What a run finds around it. -/
structure Surroundings where
  read : Reader
  database : Database
  timestamp : Text
  parser : SqlParser
  yaml : YamlReader

/-- What a run leaves behind: its status, the two texts that it shows, and the
file that it writes. -/
structure Outcome where
  status : Nat
  output : Text
  log : Text
  written : Option (Path × Text)

/-- The status of a run that could read its source. -/
def done : Nat := 0

def failed : Nat := 1

/-- The status of a run that could not begin. -/
def misused : Nat := 2

def helpText : Text :=
  "usage: main.py [-h] --input INPUT [--dialect DIALECT] [--reverse] [--format ".toList
    ++ ['\x7b'] ++ Text.join [','] Document.Format.labels ++ ['\x7d']
    ++ "] [--config CONFIG] [--out OUT]\n".toList

def stopMessage : Fault -> Text
  | .failure f => f.summary
  | .tooManyDigits => "A whole number has too many digits"
  | .headLimitNotWhole => "The length of statement heads is no whole number"
  | .unknownFormat name => Document.Format.unknownMessage name
  | .outside message => message

def settingsOf (yaml : YamlReader) (read : Reader) (config : Option Text) :
    Except Fault (Keyed Value) :=
  match config with
  | none => Settings.buildOrStop []
  | some spelled =>
    let path := Path.ofText spelled
    match read path with
    | .error _ => Settings.load yaml path.toText none
    | .ok bytes =>
      match Utf8.decodeFrom 0 none bytes with
      | .error _ => .error (.failure (Settings.unreadable path.toText))
      | .ok text => Settings.load yaml path.toText (some text)

def sectionEntries (settings : Keyed Value) (name : Text) : Keyed Value :=
  (Settings.sectionOf settings name).entries

/-- The name of the format: the one asked for, or else that of the settings. -/
def formatName (settings : Keyed Value) (asked : Option Text) : Text :=
  match asked with
  | some name => name
  | none =>
    let value := (Settings.sectionOf settings "report").getD "format" (.text "json")
    if value.isTruthy then value.display else []

/-- What reading a source gave, with what the log says about it. -/
structure Reading where
  result : Except Fault ParseReport
  lines : List Log.Line

/-- The source of a run, read under options. -/
def readSource (s : Surroundings) (options : ScriptOptions) (path : Path) (reverse : Option Bool) :
    Reading :=
  match s.read path with
  | .error e => ⟨.error (.failure (Files.failure path e)), []⟩
  | .ok bytes =>
    match Source.Content.ofBytes (some path.toText) bytes with
    | .error f => ⟨.error (.failure f), []⟩
    | .ok content =>
      match content.read s.parser options s.database path.toText reverse with
      | .error e => ⟨.error e, []⟩
      | .ok r =>
        let lines := match content with
          | .script text => Log.ofScript options text r
          | .database => Log.ofDatabase options.depth s.database r
        ⟨.ok r, lines⟩

/-- The definitions that are asked for, in the dialect of a name.  No name asks for none. -/
def definitionsFor (options : DdlOptions) (r : ParseReport) (name : Option Text) :
    Except Fault (Option Document.Definitions × List Log.Line) :=
  match name with
  | none => .ok (none, [])
  | some [] => .ok (none, [])
  | some (c :: cs) =>
    match options.choose (.text (c :: cs)) with
    | .error f => .error (.failure f)
    | .ok d =>
      match r.definitions d options.mentionDrops with
      | .error .tooManyDigits => .error .tooManyDigits
      | .ok sql => .ok (some ⟨.text (c :: cs), sql⟩, [Log.ofDefinitions d r])

/-- What is left to do once the source is read or has failed: the document with the status
of the run, and the log. -/
structure Report where
  document : Value
  status : Nat
  lines : List Log.Line

def failureReport (s : Surroundings) (settings : Keyed Value) (input : Text) (f : Failure)
    (lines : List Log.Line) : Report where
  document := Document.ofFailure (.ofSettings (sectionEntries settings "report")) s.timestamp
    (.mapping f.record) (some input)
  status := failed
  lines := lines ++ [Log.ofFailure f]

/-- The tables of the document begin with the deepest ones where depths are counted from the end. -/
def isDescending (settings : Keyed Value) (reverse : Bool) : Bool :=
  reverse || ((Settings.sectionOf settings "depth").getD "reverse" .null).isTruthy

def sourceReport (s : Surroundings) (settings : Keyed Value) (input : Text) (a : Arguments)
    (r : ParseReport) (lines : List Log.Line) : Except Fault Report :=
  match definitionsFor (.ofSettings (sectionEntries settings "converter")) r a.dialect with
  | .error (.failure f) => .ok (failureReport s settings input f lines)
  | .error e => .error e
  | .ok (definitions, more) =>
    .ok
      { document := Document.ofReport (.ofSettings (sectionEntries settings "report")) s.timestamp r
          (some (Path.ofText input).fileName) definitions (isDescending settings a.reverse) []
        status := done
        lines := lines ++ more }

/-- The report of a run with usable settings. -/
def report (s : Surroundings) (settings : Keyed Value) (input : Text) (a : Arguments) :
    Except Fault Report :=
  match ScriptOptions.ofSettings settings with
  | .error f => .ok (failureReport s settings input f [])
  | .ok options =>
    let reading := readSource s options (Path.ofText input) (if a.reverse then some true else none)
    match reading.result with
    | .error (.failure f) => .ok (failureReport s settings input f reading.lines)
    | .error e => .error e
    | .ok r => sourceReport s settings input a r reading.lines

/-- What a run leaves behind when its report is written: in a file where one is named,
and else on the output. -/
def deliver (settings : Keyed Value) (a : Arguments) (r : Report) : Except Fault Outcome :=
  match Document.exportAs (formatName settings a.format) r.document with
  | .error e => .error e
  | .ok text =>
    let log := Log.shown (Log.threshold settings) r.lines
    match a.out with
    | some (c :: cs) => .ok ⟨r.status, [], log, some (Path.ofText (c :: cs), text)⟩
    | _ => .ok ⟨r.status, if text.isEmpty then [] else text ++ ['\n'], log, none⟩

/-- The run that complete arguments ask for. -/
def perform (s : Surroundings) (input : Text) (a : Arguments) : Except Fault Outcome :=
  match settingsOf s.yaml s.read a.config with
  | .error (.failure f) =>
    .ok ⟨misused, [], "Ошибка конфигурации: ".toList ++ f.summary ++ ['\n'], none⟩
  | .error e => .error e
  | .ok settings =>
    match report s settings input a with
    | .error e => .error e
    | .ok r => deliver settings a r

/-- The run that the words of a command line ask for, unless they are no command. -/
def run (s : Surroundings) (words : List Text) : Except UsageError (Except Fault Outcome) :=
  match Request.ofWords words with
  | .error e => .error e
  | .ok .help => .ok (.ok ⟨done, helpText, [], none⟩)
  | .ok (.run input a) => .ok (perform s input a)

end CommandLine
end SchemaAtlas
