import SchemaAtlas.Document.Export
import SchemaAtlas.Text.Digit

namespace SchemaAtlas
namespace CommandLine

/-!
The arguments of the program.

An option may be cut short as long as only one option begins that way, and its value may follow it
or be attached by an equals sign.  The last value of an option counts.  Words that belong to no
option are collected, and complained about only when everything else is in order.
-/

/-- The options of the program. -/
inductive Flag where
  | help
  | input
  | dialect
  | reverse
  | format
  | config
  | out
deriving DecidableEq

namespace Flag

def spellings : List (Text × Flag) :=
  [("-h", .help), ("--help", .help), ("--input", .input), ("--dialect", .dialect),
   ("--reverse", .reverse), ("--format", .format), ("--config", .config), ("--out", .out)]

def label (f : Flag) : Text :=
  Text.join ['/'] ((spellings.filter fun entry => entry.2 == f).map Prod.fst)

def takesValue : Flag -> Bool
  | .help => false
  | .reverse => false
  | _ => true

def ofSpelling? (t : Text) : Option Flag :=
  spellings.lookup t

end Flag

/-- What is wrong with the arguments. -/
inductive UsageError where
  | ambiguous (word : Text) (candidates : List Text)
  | valueMissing (flag : Flag)
  | valueIgnored (flag : Flag) (value : Text)
  | invalidChoice (flag : Flag) (value : Text) (choices : List Text)
  | required (flags : List Flag)
  | unrecognized (words : List Text)
deriving DecidableEq

namespace UsageError

def about (flag : Flag) (message : Text) : Text :=
  "argument ".toList ++ flag.label ++ ": ".toList ++ message

def message : UsageError -> Text
  | .ambiguous word candidates =>
    "ambiguous option: ".toList ++ word ++ " could match ".toList
      ++ Text.join ", ".toList candidates
  | .valueMissing flag => about flag "expected one argument"
  | .valueIgnored flag value =>
    about flag ("ignored explicit argument ".toList ++ Text.quoted value)
  | .invalidChoice flag value choices =>
    about flag ("invalid choice: ".toList ++ Text.quoted value ++ " (choose from ".toList
      ++ Text.join ", ".toList (choices.map Text.quoted) ++ [')'])
  | .required flags =>
    "the following arguments are required: ".toList
      ++ Text.join ", ".toList (flags.map Flag.label)
  | .unrecognized words => "unrecognized arguments: ".toList ++ Text.join [' '] words

def line (e : UsageError) : Text :=
  "main.py: error: ".toList ++ e.message

end UsageError

/-- What one word is: an option with the value attached to it, something that looks like an option,
the mark behind which everything is a value, or a value. -/
inductive Word where
  | option (flag : Flag) (short : Bool) (attached : Option Text)
  | stranger
  | mark
  | value
deriving DecidableEq

namespace Word

/-- The parts of a word before and behind its first equals sign. -/
def atEquals (t : Text) : Text × Option Text :=
  match t.dropWhile (· != '=') with
  | _ :: behind => (t.takeWhile (· != '='), some behind)
  | [] => (t, none)

/-- A negative number, which is a value though it begins with a hyphen. -/
def isNegativeNumber (t : Text) : Bool :=
  let behind := (t.drop 1).dropWhile Text.isDecimalDigit
  match behind with
  | [] => 1 < t.length
  | '.' :: digits => !digits.isEmpty && digits.all Text.isDecimalDigit
  | _ => false

/-- A word with two hyphens: the beginning of an option. -/
def ofLong (t : Text) : Except UsageError (Option Word) :=
  let (name, attached) := atEquals t
  match Flag.spellings.filter fun entry => Text.startsWith entry.1 name with
  | [] => .ok none
  | [entry] => .ok (some (.option entry.2 false attached))
  | entries => .error (.ambiguous t (entries.map Prod.fst))

/-- A word with one hyphen: the only short option, with whatever is attached to it. -/
def ofShort (t : Text) : Option Word :=
  match Flag.ofSpelling? (t.take 2) with
  | some flag => some (.option flag true (some (t.drop 2)))
  | none => none

def ofOther (t : Text) (found : Option Word) : Word :=
  match found with
  | some word => word
  | none => if isNegativeNumber t || t.contains ' ' then .value else .stranger

def ofText (t : Text) : Except UsageError Word :=
  let (name, attached) := atEquals t
  match t with
  | '-' :: second :: _ =>
    match Flag.ofSpelling? t, Flag.ofSpelling? name with
    | some flag, _ => .ok (.option flag (second != '-') none)
    | none, some flag => .ok (.option flag (second != '-') attached)
    | none, none =>
      if t == ['-', '-'] then .ok .mark
      else if second == '-' then (ofLong t).map (ofOther t)
      else .ok (ofOther t (ofShort t))
  | _ => .ok .value

/-- What each word is.  Behind the mark everything is a value. -/
def ofTexts : List Text -> Except UsageError (List (Text × Word))
  | [] => .ok []
  | t :: rest =>
    match ofText t with
    | .error e => .error e
    | .ok .mark => .ok ((t, .mark) :: rest.map fun other => (other, .value))
    | .ok word => (ofTexts rest).map ((t, word) :: ·)

end Word

/-- The arguments read so far. -/
structure Arguments where
  input : Option Text
  dialect : Option Text
  reverse : Bool
  format : Option Text
  config : Option Text
  out : Option Text
  strangers : List Text
deriving DecidableEq

/-- What the arguments ask for: help, or a run. -/
inductive Request where
  | help
  | run (input : Text) (arguments : Arguments)
deriving DecidableEq

namespace Arguments

def empty : Arguments := ⟨none, none, false, none, none, none, []⟩

/-- The arguments with the value of an option. -/
def set (a : Arguments) (flag : Flag) (value : Text) : Except UsageError Arguments :=
  match flag with
  | .input => .ok { a with input := some value }
  | .dialect => .ok { a with dialect := some value }
  | .format =>
    if Document.Format.labels.contains value then .ok { a with format := some value }
    else .error (.invalidChoice .format value Document.Format.labels)
  | .config => .ok { a with config := some value }
  | .out => .ok { a with out := some value }
  | .help => .ok a
  | .reverse => .ok { a with reverse := true }

/-- A value attached to an option without values.  Short options may be written together, and only
the request for help has a short form. -/
def attachedError? (flag : Flag) (short : Bool) (attached : Text) : Option UsageError :=
  if !short || attached.isEmpty then some (.valueIgnored flag attached)
  else
    match attached.dropWhile (· == 'h') with
    | [] => none
    | other => some (.valueIgnored flag other)

/-- The arguments with all words read, or nothing where help is asked for. -/
def readWords (a : Arguments) : List (Text × Word) -> Except UsageError (Option Arguments)
  | [] => .ok (some a)
  | (_, .option flag short (some attached)) :: rest =>
    if flag.takesValue then
      match a.set flag attached with
      | .error e => .error e
      | .ok b => b.readWords rest
    else
      match attachedError? flag short attached with
      | some e => .error e
      | none => .ok none
  | (_, .option flag _ none) :: rest =>
    if flag == .help then .ok none
    else if flag.takesValue then
      match rest with
      | (value, .value) :: behind =>
        match a.set flag value with
        | .error e => .error e
        | .ok b => b.readWords behind
      | _ => .error (.valueMissing flag)
    else { a with reverse := true }.readWords rest
  | (word, _) :: rest => { a with strangers := a.strangers ++ [word] }.readWords rest

/-- The request of complete arguments: the input is named, and every word belongs somewhere. -/
def complete (a : Arguments) : Except UsageError Request :=
  match a.input with
  | none => .error (.required [.input])
  | some input =>
    if a.strangers.isEmpty then .ok (.run input a) else .error (.unrecognized a.strangers)

end Arguments

/-- What the words of a command line ask for. -/
def Request.ofWords (words : List Text) : Except UsageError Request :=
  match Word.ofTexts words with
  | .error e => .error e
  | .ok classified =>
    match Arguments.empty.readWords classified with
    | .error e => .error e
    | .ok none => .ok .help
    | .ok (some a) => a.complete

end CommandLine
end SchemaAtlas
