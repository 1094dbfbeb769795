import SchemaAtlas.Settings.Build
import SchemaAtlas.Settings.Reader

namespace SchemaAtlas
namespace Settings

/-!
Settings from a file, which an outside reader makes a value of.
-/

def fileFailure (message : Text) : Failure :=
  Failure.settings message (.text "path") .null

/-- The failure of a file that holds no document. -/
def unreadable (path : Text) : Failure :=
  fileFailure ("Некорректный YAML в ".toList ++ path)

/-- The settings with overrides, or what stops the program where they cannot be used. -/
def buildOrStop (overrides : Keyed Value) : Except Fault (Keyed Value) :=
  match build overrides with
  | .ok settings => .ok settings
  | .error e => .error e.fault

/-- The settings with the overrides of a document.  An empty document overrides nothing. -/
def ofDocument (yaml : YamlReader) (path document : Text) : Except Fault (Keyed Value) :=
  match yaml.read document with
  | .error .malformed => .error (.failure (unreadable path))
  | .error (.raised message) => .error (.outside message)
  | .ok v =>
    if !v.isTruthy then buildOrStop []
    else
      match v with
      | .mapping overrides => buildOrStop overrides
      | _ =>
        .error (.failure (fileFailure ("Корень ".toList ++ path ++ " должен быть словарём".toList)))

/-- The settings of a file, given its path and its text where the file is there. -/
def load (yaml : YamlReader) (path : Text) (document : Option Text) :
    Except Fault (Keyed Value) :=
  match document with
  | none => .error (.failure (fileFailure ("Файл конфигурации не найден: ".toList ++ path)))
  | some text => ofDocument yaml path text

end Settings
end SchemaAtlas
