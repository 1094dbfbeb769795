import SchemaAtlas.Reference.Matcher

namespace SchemaAtlas

/-!
Matchers by name, with the settings that shape them.
-/

/-- A matcher under its name, with all of its settings. -/
structure NamedMatcher where
  matcher : Matcher
  settings : Keyed Value

namespace NamedMatcher

/-- The settings of the matcher by column names, where none are given. -/
def suffixDefaults : Keyed Value :=
  [("suffix", .text "_id"), ("match_plurals", .bool true)]

/-- The matcher by column names with some settings. -/
def suffix (given : Keyed Value) : NamedMatcher :=
  let settings := Keyed.fill suffixDefaults given
  ⟨.suffix (((Keyed.get? "suffix" settings).getD .null).display)
    (((Keyed.get? "match_plurals" settings).getD .null).isTruthy), settings⟩

/-- The matcher of a name, whatever its case and outer white space. -/
def ofName (name : Value) (given : Keyed Value) : Except Failure NamedMatcher :=
  let key := Text.lower (Text.trim (name.text?.getD []))
  if key == "suffix".toList then .ok (suffix given)
  else if key == "foreign_key".toList then .ok ⟨.foreignKey, given⟩
  else
    .error (Failure.settings
      ("Неизвестная стратегия ссылок '".toList ++ name.display
        ++ "', доступны: suffix, foreign_key".toList)
      (.text "depth.matcher") name)

def className : Matcher -> Text
  | .suffix _ _ => "SuffixReferenceMatcher"
  | .foreignKey => "ForeignKeyReferenceMatcher"

def label : Matcher -> Text
  | .suffix _ _ => "suffix"
  | .foreignKey => "foreign_key"

def title : Matcher -> Text
  | .suffix _ _ => "Суффикс _id"
  | .foreignKey => "Объявленные внешние ключи"

def description : Matcher -> Text
  | .suffix _ _ => "Ссылки по соглашению об именовании <таблица>_id"
  | .foreignKey => "Ссылки из FOREIGN KEY (...) REFERENCES t(...) и inline REFERENCES"

/-- All that is known about a matcher. -/
def info (m : NamedMatcher) : Value :=
  .mapping
    [("id", .text (label m.matcher)),
     ("name", .text (title m.matcher)),
     ("description", .text (description m.matcher)),
     ("config", .mapping m.settings),
     ("class_name", .text (className m.matcher))]

def summary (m : NamedMatcher) : Text :=
  "<ReferenceMatcher ".toList ++ label m.matcher ++ ": ".toList ++ className m.matcher ++ ['>']

end NamedMatcher

/-- How depths are calculated: by which references, and from which end. -/
structure DepthOptions where
  matcher : NamedMatcher
  reverse : Bool
  settings : Keyed Value

namespace DepthOptions

/-- The settings of depths, where none are given. -/
def defaults : Keyed Value :=
  [("reverse", .bool false), ("matcher", .text "suffix")]

/-- The options that settings describe.  Each matcher may have settings of its
own, under its name. -/
def ofSettings (given : Keyed Value) : Except Failure DepthOptions :=
  let settings := Keyed.fill defaults given
  let name := (Keyed.get? "matcher" settings).getD .null
  let own := ((Keyed.get? "matchers" settings).getD .null).getD (name.text?.getD []) .null
  match NamedMatcher.ofName name own.entries with
  | .error e => .error e
  | .ok matcher =>
    .ok ⟨matcher, ((Keyed.get? "reverse" settings).getD .null).isTruthy, settings⟩

end DepthOptions
end SchemaAtlas
