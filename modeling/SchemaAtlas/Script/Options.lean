import SchemaAtlas.Number.Numeral
import SchemaAtlas.Reference.Settings
import SchemaAtlas.Text.Blank

namespace SchemaAtlas

/-!
How scripts are read.
-/

/-- The delimiter of statements, the length of the head by which a statement is classified, whether
values without column names are put under the columns of their table, and how depths are
calculated.  A head length that is no number stops the first statement. -/
structure ScriptOptions where
  delimiter : Text
  headLimit : Option Int
  pairPositional : Bool
  depth : DepthOptions
  settings : Keyed Value

namespace ScriptOptions

/-- The settings of scripts, where none are given. -/
def defaults : Keyed Value :=
  [("delimiter", .text ";"), ("classify_head_chars", .int 1024),
   ("zip_positional_rows", .bool true)]

/-- The digits of a whole number, in which single underscores may stand between digits. -/
def ungrouped? : Text -> Option Text
  | [] => some []
  | [c] => if Text.isDecimalDigit c then some [c] else none
  | c :: d :: rest =>
    if !Text.isDecimalDigit c then none
    else if d == '_' then (if rest.isEmpty then none else (ungrouped? rest).map (c :: ·))
    else (ungrouped? (d :: rest)).map (c :: ·)

/-- The whole number that a text spells, outer white space apart. -/
def wholeOfText? (t : Text) : Option Int :=
  let (negative, unsigned) := Numeral.readSign (Text.trim t)
  match ungrouped? unsigned with
  | some (d :: ds) => Numeral.toInt? negative (d :: ds)
  | _ => none

def wholeOfValue? : Value -> Option Int
  | .int n => some n
  | .bool b => some (if b then 1 else 0)
  | .real x => x.truncate?
  | .text t => wholeOfText? t
  | _ => none

/-- The options that settings describe, in the two sections for scripts and for depths. -/
def ofSettings (given : Keyed Value) : Except Failure ScriptOptions :=
  let parser := Keyed.fill defaults ((Keyed.get? "parser" given).getD .null).entries
  match DepthOptions.ofSettings ((Keyed.get? "depth" given).getD .null).entries with
  | .error e => .error e
  | .ok depth =>
    let entry (key : Text) : Value := (Keyed.get? key parser).getD .null
    .ok
      { delimiter := (entry "delimiter").text?.getD []
        headLimit := wholeOfValue? (entry "classify_head_chars")
        pairPositional := (entry "zip_positional_rows").isTruthy
        depth := depth
        settings :=
          Keyed.set "depth" (.mapping depth.settings)
            (Keyed.set "parser" (.mapping parser) given) }

end ScriptOptions
end SchemaAtlas
