import SchemaAtlas.Proofs.Table.Preset

namespace SchemaAtlas
namespace Table

open Token Dialect

/-!
Traits: what stands behind the type of a column, default values included.

The expression of a default value ends where another trait begins, so a trait is read by itself only
if what follows it is again a trait, and no second default value.  Read in this way, a trait adds
what it says to the attributes already read.  Traits of different slots do so independently of one
another, and therefore their order does not matter.
-/

/-- What may stand behind the type of a column. -/
inductive Trait where
  | required
  | key
  | counting
  | unique
  | preset (p : Preset)
  | remark (t : Text) (plain : '\\' ∉ t)
  | refers (table column : Text) (tableNamed : Name.IsIdentifier table)
      (columnNamed : Name.IsIdentifier column)

namespace Trait

/-- The slot of a column that a trait takes. -/
def slot : Trait -> Nat
  | .required => 0
  | .key => 1
  | .counting => 2
  | .unique => 3
  | .preset _ => 4
  | .remark _ _ => 5
  | .refers _ _ _ _ => 6

def isPreset : Trait -> Bool
  | .preset _ => true
  | _ => false

def frame (trait : Trait) (g : Text -> Text) : Text :=
  match trait with
  | .required => "NOT NULL".toList
  | .key => "PRIMARY KEY".toList
  | .counting => "AUTO_INCREMENT".toList
  | .unique => "UNIQUE".toList
  | .preset p => "DEFAULT ".toList ++ p.frame g
  | .remark t _ => "COMMENT ".toList ++ Literal.single (g t)
  | .refers table column _ _ =>
    "REFERENCES ".toList ++
      (quoteColumn .mysql table ++ '(' :: (quoteColumn .mysql column ++ [')']))

def forms (trait : Trait) (g : Text -> Text) : List Form :=
  match trait with
  | .required => Mark.notEmpty.forms
  | .key => Mark.key.forms
  | .counting => Mark.counting.forms
  | .unique => [(.keyword, "UNIQUE".toList)]
  | .preset p => (.keyword, "DEFAULT".toList) :: p.forms g
  | .remark t _ => (Mark.remark (g t)).forms
  | .refers table column _ _ =>
    [(.keyword, "REFERENCES".toList), (.quotedIdentifier, quoteColumn .mysql table),
     (.openParen, ['(']), (.quotedIdentifier, quoteColumn .mysql column), (.closeParen, [')'])]

/-- What the trait adds to the attributes of a column already read. -/
def addTo (g : Text -> Text) (name : Text) (a : Attributes) : Trait -> Attributes
  | .required => { a with nullable := false }
  | .key => { a with inlineKey := true }
  | .counting => { a with autoIncrement := true }
  | .unique => a
  | .preset p =>
    let default := some (Text.trim (p.frame g))
    { a with default := default, autoIncrement := a.autoIncrement || drawsNumbers default }
  | .remark t _ => { a with comment := some (Text.trim (g t)) }
  | .refers table column _ _ => { a with references := a.references ++ [⟨[name], table, [column]⟩] }

theorem isItem (trait : Trait) : Frame.IsItem trait.frame := by
  cases trait with
  | required =>
      exact Frame.IsItem.pair (isItem_fixed "NOT".toList (by decide))
        (isItem_fixed "NULL".toList (by decide))
  | key =>
      exact Frame.IsItem.pair (isItem_fixed "PRIMARY".toList (by decide))
        (isItem_fixed "KEY".toList (by decide))
  | counting => exact isItem_fixed _ (by decide)
  | unique => exact isItem_fixed _ (by decide)
  | preset p => exact Frame.IsItem.pair (isItem_fixed "DEFAULT".toList (by decide)) p.isItem
  | remark t plain =>
      exact Frame.IsItem.pair (isItem_fixed "COMMENT".toList (by decide)) (Frame.isItem_literal t)
  | refers table column tableNamed columnNamed =>
      exact Frame.IsItem.pair (isItem_fixed "REFERENCES".toList (by decide))
        ((isItem_name tableNamed).grouped (isItem_name columnNamed))

/-- The tokens show the trait: its forms, and where there is a default value, its text. -/
def Shown (g : Text -> Text) (body : Text) (trait : Trait) (tokens : List Token) : Prop :=
  tokens.map form = trait.forms g ∧
    forall p, trait = .preset p -> spannedText? body tokens.tail = some (Text.trim (p.frame g))

theorem shown_of_forms {g : Text -> Text} {body : Text} {trait : Trait} {tokens : List Token}
    (formed : tokens.map form = trait.forms g) (unset : trait.isPreset = false) :
    trait.Shown g body tokens := by
  refine ⟨formed, ?_⟩
  rintro p rfl
  cases unset

variable {g : Text -> Text} (keeps : KeepsPlain g)

include keeps

theorem gives (trait : Trait) :
    Gives (trait.frame g) fun body tokens => trait.Shown g body tokens := by
  have plain : forall {t : Text} {forms : List Form}, Segment t forms ->
      forall trait : Trait, trait.isPreset = false ->
      forms = trait.forms g -> Gives t fun body tokens => trait.Shown g body tokens := by
    rintro t _ segment trait unset rfl
    exact segment.gives.imp fun body tokens formed => shown_of_forms formed unset
  cases trait with
  | required =>
      have words := segment_pair (segment_reserved "NOT".toList (by decide))
        (segment_reserved "NULL".toList (by decide))
      exact plain words .required rfl rfl
  | key =>
      have words := segment_pair (segment_reserved "PRIMARY".toList (by decide))
        (segment_reserved "KEY".toList (by decide))
      exact plain words .key rfl rfl
  | counting => exact plain (segment_reserved "AUTO_INCREMENT".toList (by decide)) .counting rfl rfl
  | unique => exact plain (segment_reserved "UNIQUE".toList (by decide)) .unique rfl rfl
  | preset p =>
      have word := segment_reserved "DEFAULT".toList (by decide)
      have value := (p.gives keeps).blank_cons (by decide : Text.isBlank ' ' = true)
      refine (word.gives.append (broken_cons (by decide) _) value).imp ?_
      rintro body tokens ⟨front, behind, rfl, formed, formedValue, spanned⟩
      rcases List.map_eq_singleton_iff.mp formed with ⟨t, rfl, formedDefault⟩
      refine ⟨?_, ?_⟩
      · rw [List.singleton_append, List.map_cons, formedDefault, formedValue]
        rfl
      · rintro _ ⟨rfl⟩
        exact spanned
  | remark t legible =>
      have word := segment_reserved "COMMENT".toList (by decide)
      exact plain (segment_pair word (segment_literal (keeps t legible)))
        (.remark t legible) rfl rfl
  | refers table column tableNamed columnNamed =>
      have word := segment_reserved "REFERENCES".toList (by decide)
      have group := segment_parens (segment_name columnNamed)
      have target := (segment_name tableNamed).append (broken_cons (by decide) _) group
      exact plain (segment_pair word target) (.refers table column tableNamed columnNamed) rfl rfl

end Trait

/-- What a table and its column in backticks are taken for behind the word that refers to them. -/
def target? (columns : List Text) (table column : Text) : Option ForeignKey :=
  let target := (QualifiedName.ofText (quoteColumn .mysql table)).table
  if target.isEmpty then none else some ⟨columns, target, [column]⟩

theorem target?_of_isIdentifier (columns : List Text) {table : Text}
    (named : Name.IsIdentifier table) (column : Text) :
    target? columns table column = some ⟨columns, table, [column]⟩ := by
  have qualified : QualifiedName.ofText (quoteColumn .mysql table) = ⟨none, table⟩ :=
    named.qualifiedName_backticks
  have filled : table.isEmpty = false := List.isEmpty_eq_false_iff.mpr named.ne_nil
  simp only [target?, qualified, filled, Bool.false_eq_true, if_false]

def referenceForms (table column : Text) : List Form :=
  [(.keyword, "REFERENCES".toList), (.quotedIdentifier, quoteColumn .mysql table),
   (.openParen, ['(']), (.quotedIdentifier, quoteColumn .mysql column), (.closeParen, [')'])]

/-- A table and its column behind the word that refers to them. -/
theorem reference?_of_forms {table column : Text} {t opening c closing : Token}
    (formedTable : t.form = (.quotedIdentifier, quoteColumn .mysql table))
    (opens : opening.kind = .openParen)
    (formedColumn : c.form = (.quotedIdentifier, quoteColumn .mysql column))
    (closes : closing.kind = .closeParen) (columns : List Text) (rest : List Token) :
    reference? columns (t :: opening :: c :: closing :: rest) = target? columns table column ∧
      afterParens (c :: closing :: rest) = rest := by
  have formed : [c].map form = listing (keyParts [column]) := by
    rw [List.map_singleton, formedColumn]
    exact (listing_singleton _).symm
  have names : nameList (c :: closing :: rest) = [column] := nameList_of_keyParts formed closes rest
  have behind := (parens_of_forms (flat_keyParts [column]).grouped formed closes rest).2
  have spelled : qualifiedTokens true (t :: opening :: c :: closing :: rest) =
      ([t], opening :: c :: closing :: rest) := by
    simp [qualifiedTokens, isName, kind_of_form formedTable, opens]
  refine ⟨?_, behind⟩
  simp only [reference?, spelled, List.flatMap_singleton, value_of_form formedTable, opens,
    beq_self_eq_true, if_true, names, target?]

/-- A reference is read by itself, whatever stands behind it. -/
theorem readAttributes_reference {table column : Text} {tokens : List Token}
    (formed : tokens.map form = referenceForms table column) (body name : Text) (a : Attributes)
    (rest : List Token) : readAttributes body name a (tokens ++ rest) =
      readAttributes body name { a with references :=
        a.references ++ (target? [name] table column).toList } rest := by
  rcases List.map_eq_cons_iff.mp formed with ⟨first, others, rfl, formedFirst, formed⟩
  rcases List.map_eq_cons_iff.mp formed with ⟨t, others, rfl, formedTable, formed⟩
  rcases List.map_eq_cons_iff.mp formed with ⟨opening, others, rfl, formedOpening, formed⟩
  rcases List.map_eq_cons_iff.mp formed with ⟨c, others, rfl, formedColumn, formed⟩
  rcases List.map_eq_singleton_iff.mp formed with ⟨closing, rfl, formedClosing⟩
  have opens := kind_of_form formedOpening
  rcases reference?_of_forms formedTable opens formedColumn (kind_of_form formedClosing)
      [name] rest with
    ⟨refers, behind⟩
  have word : first.word = "REFERENCES".toList := Mark.word_of_form formedFirst (by decide)
  have noTable : t.word ∉ attributeWords := by
    rw [Token.word, Token.upper, kind_of_form formedTable, value_of_form formedTable]
    exact upper_not_mem (by decide) _ attributeWords (by decide)
  have noOpening : opening.word ∉ attributeWords := by
    have shown : opening.word = ['('] := by
      rw [Token.word, Token.upper, opens, value_of_form formedOpening]
      decide
    rw [shown]
    decide
  have tableUnopened : (t.kind == .openParen) = false := by
    rw [kind_of_form formedTable]
    rfl
  simp only [List.cons_append, List.nil_append]
  -- the word alone makes the reference, and what it refers to is passed over
  rw [(AttributeRead.reference word).readAttributes_eq, refers, readAttributes_of_not_mem noTable,
    tableUnopened, if_neg Bool.false_ne_true, readAttributes_of_not_mem noOpening,
      if_pos (beq_iff_eq.mpr opens), behind]

namespace Trait

section Reading

variable {g : Text -> Text} {body : Text} {tokens : List Token}

/-- The value of a default ends where nothing belongs to it any more. -/
theorem readAttributes_preset {p : Preset} (shown : (Trait.preset p).Shown g body tokens)
    (name : Text) (a : Attributes) {rest : List Token} (stops : defaultLength 0 false rest = 0) :
    readAttributes body name a (tokens ++ rest) = readAttributes body name
      ((Trait.preset p).addTo g name a) rest := by
  rcases shown with ⟨formed, spanned⟩
  rcases List.map_eq_cons_iff.mp formed with ⟨t, value, rfl, formedDefault, formedValue⟩
  have text : spannedText? body value = some (Text.trim (p.frame g)) := spanned p rfl
  have size : defaultLength 0 true (value ++ rest) = value.length := by
    rw [p.defaultLength_eq formedValue rest, stops, Nat.add_zero]
  simp only [addTo, ← text]
  apply AttributeRead.readAttributes_eq
  exact .preset (Mark.word_of_form formedDefault (by decide)) size

/-- One trait is read at a time, provided that the value of a default ends behind it. -/
theorem readAttributes_append (keeps : KeepsPlain g) {trait : Trait}
    (shown : trait.Shown g body tokens) (name : Text) (a : Attributes) {rest : List Token}
    (unopened : forall t, rest.head? = some t -> t.kind ≠ .openParen)
    (stops : trait.isPreset = true -> defaultLength 0 false rest = 0) :
    readAttributes body name a (tokens ++ rest) = readAttributes body name
      (trait.addTo g name a) rest := by
  have formed := shown.1
  cases trait with
  | required => exact Mark.notEmpty.readAttributes_append trivial formed body name a unopened
  | key => exact Mark.key.readAttributes_append trivial formed body name a unopened
  | counting => exact Mark.counting.readAttributes_append trivial formed body name a unopened
  | unique =>
      rcases List.map_eq_singleton_iff.mp formed with ⟨t, rfl, formedUnique⟩
      have other : t.word ∉ attributeWords := by
        rw [Mark.word_of_form formedUnique (by decide)]
        decide
      rw [List.singleton_append, readAttributes_of_not_mem other, kind_of_form formedUnique]
      rfl
  | preset p => exact readAttributes_preset shown name a (stops rfl)
  | remark text plain =>
      rcases List.map_eq_cons_iff.mp formed with ⟨t, others, rfl, formedComment, formedOthers⟩
      rcases List.map_eq_singleton_iff.mp formedOthers with ⟨u, rfl, formedText⟩
      have read : Literal.unquote u.value = g text := by
        rw [value_of_form formedText, Literal.unquote_single (keeps text plain)]
      rw [addTo, ← read]
      apply AttributeRead.readAttributes_eq
      exact .remark (Mark.word_of_form formedComment (by decide)) (kind_of_form formedText)
  | refers table column tableNamed columnNamed =>
      have spelled : tokens.map form = referenceForms table column := formed
      have read := readAttributes_reference spelled body name a rest
      rwa [target?_of_isIdentifier [name] tableNamed] at read

/-- Every trait begins with a word. -/
theorem exists_word (trait : Trait) (g : Text -> Text) :
    exists word more, trait.forms g = (.keyword, word) :: more := by
  cases trait with
  | required => exact ⟨_, _, rfl⟩
  | key => exact ⟨_, _, rfl⟩
  | counting => exact ⟨_, _, rfl⟩
  | unique => exact ⟨_, _, rfl⟩
  | preset p => exact ⟨_, _, rfl⟩
  | remark t plain => exact ⟨_, _, rfl⟩
  | refers table column tableNamed columnNamed => exact ⟨_, _, rfl⟩

/-- The value of a default ends in front of every other trait. -/
theorem defaultLength_eq_zero {trait : Trait} (unset : trait.isPreset = false)
    (formed : tokens.map form = trait.forms g) (rest : List Token) :
    defaultLength 0 false (tokens ++ rest) = 0 := by
  have ends : forall word more, trait.forms g = (.keyword, word) :: more ->
      Text.upper word = word ->
      endsDefault.contains word = true -> defaultLength 0 false (tokens ++ rest) = 0 := by
    intro word more first upper listed
    rw [first] at formed
    rcases List.map_eq_cons_iff.mp formed with ⟨t, others, rfl, formedWord, _⟩
    rw [List.cons_append, defaultLength, Mark.word_of_form formedWord upper, listed]
    rfl
  cases trait with
  | required =>
      rcases List.map_eq_cons_iff.mp formed with ⟨t, others, rfl, formedNot, formedOthers⟩
      rcases List.map_eq_singleton_iff.mp formedOthers with ⟨u, rfl, formedNull⟩
      have next : nextWord (u :: rest) = "NULL".toList := Mark.word_of_form formedNull (by decide)
      rw [List.cons_append, List.singleton_append, defaultLength,
        Mark.word_of_form formedNot (by decide), next]
      simp
  | key => exact ends _ _ rfl (by decide) (by decide)
  | counting => exact ends _ _ rfl (by decide) (by decide)
  | unique => exact ends _ _ rfl (by decide) (by decide)
  | preset p => cases unset
  | remark t plain => exact ends _ _ rfl (by decide) (by decide)
  | refers table column tableNamed columnNamed => exact ends _ _ rfl (by decide) (by decide)

/-- The tokens of several traits. -/
abbrev AllShown (g : Text -> Text) (body : Text) : List Trait -> List (List Token) -> Prop :=
  List.Forall₂ fun trait group => trait.Shown g body group

variable {traits : List Trait} {groups : List (List Token)}

theorem forms_of_allShown (shown : AllShown g body traits groups) :
    groups.flatten.map form = traits.flatMap fun trait => trait.forms g := by
  induction shown with
  | nil => rfl
  | cons here _ ih => rw [List.flatten_cons, List.map_append, here.1, ih, List.flatMap_cons]

theorem unopened_of_allShown (shown : AllShown g body traits groups) {rest : List Token}
    (unopened : forall t, rest.head? = some t -> t.kind ≠ .openParen) :
    forall t, (groups.flatten ++ rest).head? = some t -> t.kind ≠ .openParen := by
  cases shown with
  | nil => exact unopened
  | @cons trait group traits groups here later =>
      rcases trait.exists_word g with ⟨word, more, spelled⟩
      rcases List.map_eq_cons_iff.mp (here.1.trans spelled) with ⟨u, others, rfl, formedWord, _⟩
      intro t first
      obtain rfl : u = t := Option.some.inj first
      simp [kind_of_form formedWord]

theorem stops_of_allShown (shown : AllShown g body traits groups)
    (unset : forall trait, trait ∈ traits -> trait.isPreset = false) {rest : List Token}
    (stops : defaultLength 0 false rest = 0) :
    defaultLength 0 false (groups.flatten ++ rest) = 0 := by
  cases shown with
  | nil => exact stops
  | cons here later =>
      rw [List.flatten_cons, List.append_assoc]
      exact defaultLength_eq_zero (unset _ List.mem_cons_self) here.1 _

/-- Traits in front of tokens that open no group and with which no default value goes on, where
no two of the traits take the same slot. -/
theorem readAttributes_flatten_append (keeps : KeepsPlain g) (shown : AllShown g body traits groups)
    (distinct : (traits.map slot).Nodup) (name : Text) (a : Attributes) {rest : List Token}
    (unopened : forall t, rest.head? = some t -> t.kind ≠ .openParen)
    (stops : defaultLength 0 false rest = 0) :
    readAttributes body name a (groups.flatten ++ rest) =
      readAttributes body name (traits.foldl (addTo g name) a) rest := by
  induction shown generalizing a with
  | nil => rfl
  | @cons trait group traits groups here later ih =>
      rcases List.nodup_cons.mp distinct with ⟨alone, others⟩
      have stopsHere : trait.isPreset = true ->
          defaultLength 0 false (groups.flatten ++ rest) = 0 := by
        intro set
        refine stops_of_allShown later ?_ stops
        intro other member
        have different : other.slot ≠ trait.slot :=
          fun same => alone (same ▸ List.mem_map_of_mem member)
        cases trait with
        | preset p =>
            cases other with
            | preset q => exact absurd rfl different
            | _ => rfl
        | _ => cases set
      rw [List.flatten_cons, List.append_assoc,
        readAttributes_append keeps here name a (unopened_of_allShown later unopened) stopsHere,
          List.foldl_cons]
      exact ih others _

/-- All traits together. -/
theorem readAttributes_eq_foldl (keeps : KeepsPlain g) (shown : AllShown g body traits groups)
    (distinct : (traits.map slot).Nodup) (name : Text) (a : Attributes) :
    readAttributes body name a groups.flatten = traits.foldl (addTo g name) a := by
  have read : readAttributes body name a (groups.flatten ++ []) =
      readAttributes body name (traits.foldl (addTo g name) a) [] :=
    readAttributes_flatten_append keeps shown distinct name a (by simp) rfl
  rwa [List.append_nil, readAttributes_nil] at read

end Reading

/-! Orders. -/

/-- Traits of different slots do not look at one another. -/
theorem addTo_comm (g : Text -> Text) (name : Text) {first second : Trait}
    (different : first.slot ≠ second.slot) (a : Attributes) :
    addTo g name (addTo g name a first) second = addTo g name (addTo g name a second) first := by
  cases first <;> cases second <;> first | rfl | exact absurd rfl different

/-- The order of traits does not matter. -/
theorem foldl_addTo_of_perm (g : Text -> Text) (name : Text) {traits others : List Trait}
    (perm : traits.Perm others) (distinct : (traits.map slot).Nodup) (a : Attributes) :
    traits.foldl (addTo g name) a = others.foldl (addTo g name) a := by
  apply perm.foldl_eq'
  intro first inFirst second inSecond a
  by_cases same : first.slot = second.slot
  · have equal : first = second := List.inj_on_of_nodup_map distinct inFirst inSecond same
    rw [equal]
  · exact addTo_comm g name same a

end Trait

end Table
end SchemaAtlas
