import SchemaAtlas.Dialect.Basic

namespace SchemaAtlas
namespace Settings

/-!
Settings: defaults with overrides laid over them, checked before use.
-/

/-- The settings in force where nothing is overridden. -/
def defaults : Keyed Value :=
  [("parser", .mapping
    [("delimiter", .text ";"), ("classify_head_chars", .int 1024),
     ("zip_positional_rows", .bool true)]),
   ("depth", .mapping [("reverse", .bool false), ("matcher", .text "suffix")]),
   ("converter", .mapping [("dialect", .text "mysql"), ("drop_table_comments", .bool true)]),
   ("report", .mapping [("format", .text "json"), ("include_rows", .bool false)]),
   ("logging", .mapping [("level", .text "INFO")])]

mutual

/-- A value laid over one that may be there: a mapping is laid over a mapping entry by entry, and
everything else takes the place of what was there. -/
def overlayValue (base : Option Value) : Value -> Value
  | .mapping overrides =>
    match base with
    | some (.mapping entries) => .mapping (overlay entries overrides)
    | _ => .mapping overrides
  | v => v

def overlay (base : Keyed Value) : List (Text × Value) -> Keyed Value
  | [] => base
  | (key, value) :: rest =>
    overlay (Keyed.set key (overlayValue (Keyed.get? key base) value) base) rest

end

/-- Why settings cannot be used. -/
inductive SettingsError where
  | sectionNotMapping (name : Text)
  | overlongDialect
  | unknownDialect (name : Text)
  | blankDelimiter
deriving DecidableEq

namespace SettingsError

/-- What stops the program: a failure that reports show, unless it would have to
show an overlong number. -/
def fault : SettingsError -> Fault
  | .sectionNotMapping name =>
    .failure (Failure.settings ("Раздел '".toList ++ name ++ "' должен быть словарём".toList)
      (.text name) .null)
  | .overlongDialect => .tooManyDigits
  | .unknownDialect name =>
    .failure (Failure.settings
      ("Неизвестный диалект '".toList ++ name ++ "', ожидается один из: ".toList
        ++ Text.join ", ".toList (Dialect.all.map Dialect.label))
      (.text "converter.dialect") (.text name))
  | .blankDelimiter =>
    .failure (Failure.settings "Разделитель не может быть пустым" (.text "parser.delimiter") .null)

end SettingsError

def sectionOf (settings : Keyed Value) (name : Text) : Value :=
  (Keyed.get? name settings).getD .null

def badSection? (settings : Keyed Value) : Option Text :=
  (Keyed.names defaults).find? fun name => !(sectionOf settings name).isMapping

/-- The dialect that definitions are written in, as the settings give it. -/
def dialectOf (settings : Keyed Value) : Value :=
  (sectionOf settings "converter").getD "dialect" (.text [])

def dialectName (settings : Keyed Value) : Text :=
  Text.lower (Text.trim (dialectOf settings).display)

/-- The delimiter of statements is a text that is not blank. -/
def delimiterIsUsable (settings : Keyed Value) : Bool :=
  match (sectionOf settings "parser").getD "delimiter" .null with
  | .text t => !Text.isBlankText t
  | _ => false

/-- The settings, if they can be used: every section is a mapping, the dialect is known, and the
delimiter is not blank. -/
def checked (settings : Keyed Value) : Except SettingsError (Keyed Value) :=
  match badSection? settings with
  | some name => .error (.sectionNotMapping name)
  | none =>
    if (dialectOf settings).isOverlong then .error .overlongDialect
    else if (Keyed.get? (dialectName settings) Dialect.aliases).isNone then
      .error (.unknownDialect (dialectName settings))
    else if !delimiterIsUsable settings then .error .blankDelimiter
    else .ok settings

/-- The defaults with overrides laid over them, if they can be used. -/
def build (overrides : Keyed Value) : Except SettingsError (Keyed Value) :=
  checked (overlay defaults overrides)

end Settings
end SchemaAtlas
