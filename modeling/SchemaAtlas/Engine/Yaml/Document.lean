import SchemaAtlas.Engine.Yaml.Layout
import SchemaAtlas.Engine.Yaml.Scalar
import SchemaAtlas.Settings.Reader
import SchemaAtlas.Statement.Split

namespace SchemaAtlas
namespace Yaml

/-!
The value of a document.

This is a small reader of settings files, with which the program runs.  Settings are loaded with any
reader, and nothing that is said about them rests on this one.

Values are read from the symbols by recursive descent.  A name given to a value can be used behind
it in place of the value.  The fuel of the functions bounds the number of steps; each step but a
bounded number takes a symbol, so the number of symbols is a bound.
-/

/-- What is still to be read: symbols, and the values with names, which are missing
while they are being read. -/
structure Source where
  symbols : List Symbol
  named : Keyed (Option Value)

/-- A value that was read, whether it is a plain scalar that is no value of its own, and
what is still to be read. -/
structure Found where
  value : Value
  special : Bool
  source : Source

def Source.nothing (s : Source) : Found :=
  ⟨.null, false, s⟩

/-- The source without its first symbol. -/
def Source.drop (s : Source) : Source :=
  { s with symbols := s.symbols.drop 1 }

/-- The first symbol is one of some symbols, or there is none. -/
def Source.isAt (s : Source) (stops : List Symbol) : Bool :=
  match s.symbols with
  | [] => true
  | first :: _ => stops.contains first

/-- The source at an entry in brackets, behind the comma that stands in front of
all but the first entry. -/
def Source.behindComma? (s : Source) (first : Bool) : Option Source :=
  if first then some s
  else if s.symbols.head? == some .comma then some s.drop
  else none

/-- What stands in front of a value: its name and its tag. -/
structure Properties where
  anchor : Option Text
  tag : Option Text

/-- The name and the tag in front of a value, in either order. -/
def properties (s : Source) : Properties × Source :=
  match s.symbols with
  | .anchor a :: .tag t :: rest => (⟨some a, some t⟩, { s with symbols := rest })
  | .tag t :: .anchor a :: rest => (⟨some a, some t⟩, { s with symbols := rest })
  | .anchor a :: rest => (⟨some a, none⟩, { s with symbols := rest })
  | .tag t :: rest => (⟨none, some t⟩, { s with symbols := rest })
  | _ => (⟨none, none⟩, s)

def fitsTag (name : String) (tag : Option Text) : Bool :=
  match tag with
  | none => true
  | some t => t == ['!'] || t == standardTag ++ name.toList

def scalarValue? (tag : Option Text) (text : Text) (plain : Bool) : Option (Value × Bool) :=
  match tag with
  | none => some (if plain then (plainValue text, isSpecial text) else (.text text, false))
  | some t =>
    if t == ['!'] then some (plainValue text, isSpecial text)
    else (taggedValue? t text).map fun v => (v, false)

/-- The entries of a mapping while it is read: its own and those of the mappings
that it takes over. -/
structure Entries where
  own : List (Text × Value)
  taken : List (Text × Value)

/-- The entries that a value gives to the mapping that takes it over. -/
def takenEntries? : Value -> Option (List (Text × Value))
  | .mapping entries => some entries
  | .list items =>
    if items.all Value.isMapping then some (items.reverse.flatMap Value.entries) else none
  | _ => none

/-- The key takes the entries of other mappings over. -/
def takesOver (key : Value) (special : Bool) : Bool :=
  match key with
  | .text t => special && t == "<<".toList
  | _ => false

def Entries.add? (e : Entries) (key : Value) (special : Bool) (value : Value) (broken : Bool) :
    Option Entries :=
  if broken then none
  else if takesOver key special then
    (takenEntries? value).map fun more => { e with taken := e.taken ++ more }
  else (keyText? key).map fun k => { e with own := e.own ++ [(k, value)] }

/-- The mapping of all entries.  Its own entries win over those that it takes over. -/
def Entries.value (e : Entries) : Value :=
  .mapping (Keyed.ofPairs (e.taken ++ e.own))

/-- An empty value, which needs a name or a tag. -/
def emptyContent? (p : Properties) (s : Source) : Option Found :=
  if p.anchor.isSome || p.tag.isSome then
    (scalarValue? p.tag [] true).map fun r => ⟨r.1, r.2, s⟩
  else none

mutual

/-- A value.  Block collections and lists without an indentation of their own are
allowed only in some places. -/
def valueAt? (block bareList : Bool) : Nat -> Source -> Option Found
  | 0, _ => none
  | fuel + 1, s =>
    match s.symbols with
    | .alias name :: rest =>
      match Keyed.get? name s.named with
      | some (some v) => some ⟨v, false, { s with symbols := rest }⟩
      | _ => none
    | _ =>
      let (p, behind) := properties s
      match p.anchor with
      | none => contentAt? block bareList p fuel behind
      | some name =>
        if (Keyed.get? name behind.named).isSome then none
        else do
          let found <-
            contentAt? block bareList p fuel
              { behind with named := Keyed.set name none behind.named }
          let named := Keyed.set name (some found.value) found.source.named
          some { found with source := { found.source with named := named } }

/-- A value behind its name and its tag. -/
def contentAt? (block bareList : Bool) (p : Properties) : Nat -> Source -> Option Found
  | 0, _ => none
  | fuel + 1, s =>
    match s.symbols with
    | .scalar text plain :: rest => do
      let (v, special) <- scalarValue? p.tag text plain
      some ⟨v, special, { s with symbols := rest }⟩
    | .item :: _ =>
      if bareList && fitsTag "seq" p.tag then bareItems? fuel [] s
      else emptyContent? p s
    | .listOpen :: _ => if fitsTag "seq" p.tag then flowItems? fuel true [] s.drop else none
    | .mappingOpen :: _ =>
      if fitsTag "map" p.tag then flowEntries? fuel true ⟨[], []⟩ s.drop else none
    | .blockList :: _ =>
      if block && fitsTag "seq" p.tag then blockItems? fuel [] s.drop
      else emptyContent? p s
    | .blockMapping :: _ =>
      if block && fitsTag "map" p.tag then blockEntries? fuel ⟨[], []⟩ s.drop
      else emptyContent? p s
    | _ => emptyContent? p s

def blockItems? : Nat -> List Value -> Source -> Option Found
  | 0, _, _ => none
  | fuel + 1, done, s =>
    match s.symbols with
    | .item :: _ => do
      let inside := s.drop
      let found <-
        if inside.isAt [.item, .blockEnd] then some inside.nothing
        else valueAt? true false fuel inside
      if found.special then none else blockItems? fuel (done ++ [found.value]) found.source
    | .blockEnd :: _ => some ⟨.list done, false, s.drop⟩
    | _ => none

/-- The items of a list that stands no further in than the mapping around it. -/
def bareItems? : Nat -> List Value -> Source -> Option Found
  | 0, _, _ => none
  | fuel + 1, done, s =>
    match s.symbols with
    | .item :: _ => do
      let inside := s.drop
      let found <-
        if inside.isAt [.item, .key, .value, .blockEnd] then some inside.nothing
        else valueAt? true false fuel inside
      if found.special then none else bareItems? fuel (done ++ [found.value]) found.source
    | _ => some ⟨.list done, false, s⟩

def blockEntries? : Nat -> Entries -> Source -> Option Found
  | 0, _, _ => none
  | fuel + 1, done, s =>
    match s.symbols with
    | .blockEnd :: _ => some ⟨done.value, false, s.drop⟩
    | .key :: _ => do
      let inside := s.drop
      let key <-
        if inside.isAt [.key, .value, .blockEnd] then some inside.nothing
        else valueAt? true true fuel inside
      let found <- blockValue? fuel key.source
      let entries <- done.add? key.value key.special found.value found.special
      blockEntries? fuel entries found.source
    | _ => none

def blockValue? : Nat -> Source -> Option Found
  | 0, _ => none
  | fuel + 1, s =>
    match s.symbols with
    | .value :: _ =>
      let inside := s.drop
      if inside.isAt [.key, .value, .blockEnd] then some inside.nothing
      else valueAt? true true fuel inside
    | _ => some s.nothing

/-- The items of a list in brackets; an item may be a single entry of a mapping. -/
def flowItems? : Nat -> Bool -> List Value -> Source -> Option Found
  | 0, _, _, _ => none
  | fuel + 1, first, done, s =>
    match s.symbols with
    | .listClose :: _ => some ⟨.list done, false, s.drop⟩
    | _ => do
      let inside <- s.behindComma? first
      match inside.symbols with
      | .listClose :: _ => some ⟨.list done, false, inside.drop⟩
      | .key :: _ =>
        let behind := inside.drop
        let key <-
          if behind.isAt [.value, .comma, .listClose] then some behind.nothing
          else valueAt? false false fuel behind
        let found <- flowEntryValue? .listClose fuel key.source
        let entries <- (Entries.mk [] []).add? key.value key.special found.value found.special
        flowItems? fuel false (done ++ [entries.value]) found.source
      | _ =>
        let found <- valueAt? false false fuel inside
        if found.special then none else flowItems? fuel false (done ++ [found.value]) found.source

def flowEntries? : Nat -> Bool -> Entries -> Source -> Option Found
  | 0, _, _, _ => none
  | fuel + 1, first, done, s =>
    match s.symbols with
    | .mappingClose :: _ => some ⟨done.value, false, s.drop⟩
    | _ => do
      let inside <- s.behindComma? first
      match inside.symbols with
      | .mappingClose :: _ => some ⟨done.value, false, inside.drop⟩
      | .key :: _ =>
        let behind := inside.drop
        let key <-
          if behind.isAt [.value, .comma, .mappingClose] then some behind.nothing
          else valueAt? false false fuel behind
        let found <- flowEntryValue? .mappingClose fuel key.source
        let entries <- done.add? key.value key.special found.value found.special
        flowEntries? fuel false entries found.source
      | _ =>
        let key <- valueAt? false false fuel inside
        let entries <- done.add? key.value key.special .null false
        flowEntries? fuel false entries key.source

/-- The value of an entry in brackets or braces, which may be left out. -/
def flowEntryValue? (close : Symbol) : Nat -> Source -> Option Found
  | 0, _ => none
  | fuel + 1, s =>
    match s.symbols with
    | .value :: _ =>
      let inside := s.drop
      if inside.isAt [.comma, close] then some inside.nothing
      else valueAt? false false fuel inside
    | _ => some s.nothing

end

/-- A character that documents may hold. -/
def isAllowed (c : Char) : Bool :=
  c == '\t' || c == '\n' || c == '\r' || (0x20 ≤ c.toNat && c.toNat ≤ 0x7E) || c.toNat == 0x85
    || (0xA0 ≤ c.toNat && c.toNat ≤ 0xFFFD) || 0x10000 ≤ c.toNat

/-- The symbols without the directives in front of a document and the mark that begins it.
Directives need that mark. -/
def withoutStart? (symbols : List Symbol) : Option (List Symbol) :=
  match symbols.dropWhile (· == .directive), symbols.head? with
  | .documentStart :: rest, _ => some rest
  | _, some .directive => none
  | _, _ => some symbols

/-- The symbols hold nothing but marks that end documents. -/
def isFinished (symbols : List Symbol) : Bool :=
  symbols.all (· == .documentEnd)

/-- The value of the only document that symbols form. -/
def documentValue? (symbols : List Symbol) : Option Value := do
  let body <- withoutStart? symbols
  if symbols.head? == some .documentEnd then none
  else
    let source : Source := ⟨body, []⟩
    let found <-
      if source.isAt [.directive, .documentStart, .documentEnd] then some source.nothing
      else valueAt? true false (4 * body.length + 4) source
    if found.special || !isFinished found.source.symbols then none else some found.value

def read (t : Text) : Except YamlError Value :=
  if !t.all isAllowed then .error .malformed
  else
    match (symbols? (Statement.unifyBreaks t)).bind documentValue? with
    | some v => .ok v
    | none => .error .malformed

/-- The reader with which the program runs. -/
def reader : YamlReader where
  read := read

end Yaml
end SchemaAtlas
