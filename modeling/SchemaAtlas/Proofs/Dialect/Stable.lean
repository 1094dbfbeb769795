import SchemaAtlas.Proofs.Dialect.Mapped
import SchemaAtlas.Proofs.Dialect.Spelling
import SchemaAtlas.Proofs.Insert.Cell
import SchemaAtlas.Proofs.Token.Reads

namespace SchemaAtlas

/-!
Types that are in the dialect already.

What the mapping writes is a type of the dialect, and mapping it again should leave it alone.  A
type with a size, a list of values and a name that the table does not have all do.  A name alone
goes through the table once more, and there a few of the types are found under a beginning that was
meant for the types of other dialects: those are the only ones that move on.
-/

namespace Text

theorem mem_of_mem_collapse {q c : Char} {t : Text} (member : c ∈ collapse q t) : c ∈ t := by
  fun_induction collapse q t with
  | case1 => cases member
  | case2 d => exact member
  | case3 d e rest pair ih =>
      simp only [Bool.and_eq_true, beq_iff_eq] at pair
      rcases List.mem_cons.mp member with rfl | later
      · exact List.mem_cons.mpr (.inl pair.1.symm)
      · exact List.mem_cons_of_mem d (List.mem_cons_of_mem e (ih later))
  | case4 d e rest other ih =>
      rcases List.mem_cons.mp member with rfl | later
      · exact List.mem_cons_self
      · exact List.mem_cons_of_mem d (ih later)

end Text

namespace TypeText

open Text

/-- What stands between parentheses behind a name are its parameters, whatever it is. -/
theorem ofText_withParams {name : Text} (isName : IsName name) (inside : Text) :
    ofText (Dialect.withParams name inside) =
      ⟨name, some (if isValueList (upper name) then trim inside else withoutBlanks inside)⟩ := by
  have closing : isBlank ')' = false := by decide
  have kept : trimEnd (inside ++ [')']) = inside ++ [')'] := by simp [trimEnd, closing]
  have start : trimStart ('(' :: (inside ++ [')'])) = '(' :: (inside ++ [')']) :=
    dropWhile_of_head (fails_at_head '(' _ (by decide))
  have ending : tail? ('(' :: (inside ++ [')'])) = some (some inside) := by
    rw [tail?, start]
    simp [kept]
  have split : Dialect.withParams name inside = name ++ '(' :: (inside ++ [')']) := by
    simp [Dialect.withParams]
  rw [split, ofText_append isName ending]
  rfl

end TypeText

namespace Dialect

open Text

variable {d : Dialect}

/-! Lists of values. -/

theorem mem_of_mem_listedValues {t value : Text} {c : Char} (listed : value ∈ listedValues t)
    (member : c ∈ value) : c ∈ t := by
  fun_induction listedValues t with
  | case1 => cases listed
  | case2 d rest quote n closed ih =>
      rcases List.mem_cons.mp listed with rfl | later
      · exact List.mem_cons_of_mem d (List.mem_of_mem_take (mem_of_mem_collapse member))
      · exact List.mem_cons_of_mem d (List.mem_of_mem_drop (ih later))
  | case3 d rest quote closed ih => exact List.mem_cons_of_mem d (ih listed)
  | case4 d rest other ih => exact List.mem_cons_of_mem d (ih listed)

/-- A literal without backslashes is read off the front of a list. -/
theorem listedValues_single_append {value rest : Text} (plain : '\\' ∉ value)
    (behind : rest.head? ≠ some '\'') :
    listedValues (Literal.single value ++ rest) = value :: listedValues rest := by
  have harmless : true = true -> Token.Harmless ['\'', '\n'] value :=
    fun _ => Token.harmless_of_not_mem _ plain
  have closed := Token.quoteEnd?_double harmless behind
  have split : Literal.single value ++ rest = '\'' :: (double '\'' value ++ '\'' :: rest) := by
    simp [Literal.single]
  have taken : (double '\'' value ++ '\'' :: rest).take ((double '\'' value).length + 1 - 1) =
      double '\'' value := by
    rw [Nat.add_sub_cancel, List.take_left]
  have left : (double '\'' value ++ '\'' :: rest).drop ((double '\'' value).length + 1) = rest := by
    rw [List.append_cons]
    exact List.drop_left' (by simp)
  rw [split, listedValues, if_pos (by decide)]
  simp only [closed, taken, left, collapse_double]

theorem listedValues_literalList {values : List Text}
    (plain : forall value, value ∈ values -> '\\' ∉ value) :
    listedValues (literalList values) = values := by
  induction values with
  | nil => rw [literalList, List.map_nil, join, List.intercalate_nil, listedValues]
  | cons value rest ih =>
      have here := plain value List.mem_cons_self
      have later := ih fun other member => plain other (List.mem_cons_of_mem value member)
      have nothing : listedValues [] = [] := by rw [listedValues]
      cases rest with
      | nil =>
          have alone := @listedValues_single_append value [] here (by simp)
          rw [List.append_nil, nothing] at alone
          rw [literalList, List.map_singleton, join_singleton, alone]
      | cons second others =>
          have comma : listedValues (',' :: literalList (second :: others)) = second :: others := by
            rw [listedValues, if_neg (by decide), later]
          have split : literalList (value :: second :: others) =
              Literal.single value ++ ',' :: literalList (second :: others) := by
            simp [literalList, join_cons_cons]
          rw [split, listedValues_single_append here (by simp), comma]

/-! Sizes. -/

theorem isBlank_of_isAnyDigit {c : Char} (digit : isAnyDigit c = true) : isBlank c = false := by
  have checked : ((charsIn blankIntervals).all fun c => !isAnyDigit c) = true := by decide +kernel
  rw [Bool.eq_false_iff]
  intro blank
  have apart := List.all_eq_true.mp checked c (mem_charsIn blank)
  rw [digit] at apart
  cases apart

theorem withoutBlanks_of_solid {t : Text} (solid : forall c, c ∈ t -> isBlank c = false) :
    withoutBlanks t = t :=
  List.filter_eq_self.mpr fun c member => by simp [solid c member]

/-- A size that is written is written again. -/
theorem sized_again {mapped given : Text} : sized d mapped given = mapped ∨ exists inside,
    (isPrecise mapped = true ∨ d.lengthTypes.contains mapped = true) ∧
      (forall c, c ∈ inside -> isBlank c = false) ∧
      sized d mapped given = withParams mapped inside ∧
        sized d mapped inside = withParams mapped inside := by
  cases fixed : mapped.contains '(' with
  | true => exact .inl (by rw [sized, if_pos fixed])
  | false =>
      cases precise : isPrecise mapped && !given.isEmpty with
      | true =>
          have isPrecise := (Bool.and_eq_true_iff.mp precise).1
          cases params : numericParams given with
          | nil =>
              exact .inl
                (by simp only [sized, fixed, precise, params, Bool.false_eq_true, if_false,
                  if_true])
          | cons first rest =>
              refine .inr ⟨join [','] (first :: rest), .inl isPrecise, ?_, ?_, ?_⟩
              · intro c member
                rcases mem_join member with comma | ⟨run, listed, inside⟩
                · rw [List.mem_singleton.mp comma]
                  decide
                · exact Name.isBlank_of_identifierChar
                    ((mem_numericParams (params ▸ listed)).2 c inside).2
              · simp only [sized, fixed, precise, params, Bool.false_eq_true, if_false, if_true]
              · have again := numericParams_join given
                have filled : first ≠ [] := (mem_numericParams (params ▸ List.mem_cons_self)).1
                have nonempty : (join [','] (first :: rest)).isEmpty = false :=
                  List.isEmpty_eq_false_iff.mpr (join_ne_nil filled rest)
                rw [params] at again
                simp only [sized, fixed, isPrecise, nonempty, again, Bool.not_false, Bool.and_self,
                  Bool.false_eq_true, if_false, if_true]
      | false =>
          cases written : d.lengthTypes.contains mapped && !given.isEmpty &&
              given.all isAnyDigit with
          | false =>
              exact .inl
                (by simp only [sized, fixed, precise, written, Bool.false_eq_true, if_false])
          | true =>
              have itself : sized d mapped given = withParams mapped given := by
                simp only [sized, fixed, precise, written, Bool.false_eq_true, if_false, if_true]
              simp only [Bool.and_eq_true] at written
              refine .inr ⟨given, .inr written.1.1, fun c member => ?_, itself, itself⟩
              exact isBlank_of_isAnyDigit (List.all_eq_true.mp written.2 c member)

/-! Names of the table. -/

/-- A type that may be written with a size: the table leads to it again or does not have it, and
only MySQL's tiny integers hold truth values. -/
structure Sizable (d : Dialect) (name : Text) : Prop where
  isName : TypeText.IsName name
  capital : upper name = name
  noList : TypeText.isValueList name = false
  noBit : name ≠ "BIT".toList
  noBool : has "BOOL".toList name = false
  tiny : name = "TINYINT".toList -> d.booleanType = withParams name "1".toList
  again : lookup? d name = some name ∨ lookup? d name = none

instance (d : Dialect) (name : Text) : Decidable (Sizable d name) :=
  decidable_of_iff
    (TypeText.IsName name ∧ upper name = name ∧ TypeText.isValueList name = false ∧
      name ≠ "BIT".toList ∧
      has "BOOL".toList name = false ∧
      (name = "TINYINT".toList -> d.booleanType = withParams name "1".toList) ∧
      (lookup? d name = some name ∨ lookup? d name = none))
    ⟨fun ⟨isName, capital, noList, noBit, noBool, tiny, again⟩ =>
        ⟨isName, capital, noList, noBit, noBool, tiny, again⟩,
      fun ⟨isName, capital, noList, noBit, noBool, tiny, again⟩ =>
        ⟨isName, capital, noList, noBit, noBool, tiny, again⟩⟩

/-- The types that the table of a dialect leads to. -/
def written (d : Dialect) : List Text :=
  d.types.map Prod.snd

theorem mem_written {entry : Text × Text} (inTable : entry ∈ d.types) : entry.2 ∈ written d :=
  List.mem_map_of_mem inTable

/-- The types of a dialect that its own table takes for types of other dialects. -/
def moving : Dialect -> List Text
  | .mysql => ["ENUM", "SET"]
  | .postgresql => ["TIMESTAMP WITHOUT TIME ZONE"]
  | .sqlite => []
  | .sqlserver => ["NVARCHAR(MAX)", "DATETIMEOFFSET"]

/-- What a table does with its own types. -/
structure TableFacts (d : Dialect) : Prop where
  sizable : forall name, name ∈ written d ->
    (isPrecise name = true ∨ d.lengthTypes.contains name = true) -> Sizable d name
  standing : forall name, name ∈ written d -> name ∈ moving d ∨ columnType d name none none = name
  listType : forall text, text ∈ d.listType? -> text ∈ written d ∧
    d.lengthTypes.contains text = true ∧
    text.contains '(' = false ∧ isPrecise text = false
  truth : columnType d d.booleanType none none = d.booleanType

instance (d : Dialect) : Decidable (TableFacts d) :=
  decidable_of_iff
    ((forall name, name ∈ written d ->
      (isPrecise name = true ∨ d.lengthTypes.contains name = true) -> Sizable d name) ∧
      (forall name, name ∈ written d -> name ∈ moving d ∨ columnType d name none none = name) ∧
      (forall text, text ∈ d.listType? -> text ∈ written d ∧ d.lengthTypes.contains text = true ∧
        text.contains '(' = false ∧ isPrecise text = false) ∧
      columnType d d.booleanType none none = d.booleanType)
    ⟨fun ⟨sizable, standing, listType, truth⟩ => ⟨sizable, standing, listType, truth⟩,
      fun ⟨sizable, standing, listType, truth⟩ => ⟨sizable, standing, listType, truth⟩⟩

theorem tableFacts (d : Dialect) : TableFacts d := by
  cases d with
  | mysql => decide +kernel
  | postgresql => decide +kernel
  | sqlite => decide +kernel
  | sqlserver => decide +kernel

theorem isBoolean_of_sizable {name : Text} (sizable : Sizable d name) (length : Option Text) :
    TypeText.isBoolean name length =
      (name == "TINYINT".toList && length.map trim == some "1".toList) := by
  have bare : trim name = name := trim_of_unpadded (sizable.isName.spaced ▸ unpadded_oneSpaced name)
  have noBit : (name == "BIT".toList) = false := beq_eq_false_iff_ne.mpr sizable.noBit
  simp only [TypeText.isBoolean, bare, sizable.capital, noBit, sizable.noBool,
    Bool.false_eq_true, if_false]

/-- A type with its size is mapped onto itself. -/
theorem columnType_withParams {name inside : Text} (sizable : Sizable d name)
    (solid : forall c, c ∈ inside -> isBlank c = false)
    (kept : sized d name inside = withParams name inside) :
    columnType d (withParams name inside) none none = withParams name inside := by
  have parts : TypeText.ofText (withParams name inside) = ⟨name, some inside⟩ := by
    rw [TypeText.ofText_withParams sizable.isName, sizable.capital, sizable.noList,
      withoutBlanks_of_solid solid]
    rfl
  have noList : TypeText.isValueList (upper (TypeText.ofText (withParams name inside)).base) =
      false := by
    rw [parts, sizable.capital, sizable.noList]
  have asked : TypeText.isBoolean (upper (TypeText.ofText (withParams name inside)).base)
      (none.or (TypeText.ofText (withParams name inside)).params) =
        (name == "TINYINT".toList && trim inside == "1".toList) := by
    rw [parts, sizable.capital, isBoolean_of_sizable sizable]
    rfl
  cases truth : name == "TINYINT".toList && trim inside == "1".toList with
  | true =>
      simp only [Bool.and_eq_true, beq_iff_eq, trim_of_unpadded (unpadded_of_forall solid)] at truth
      rw [columnType_truth (by rw [asked, truth.1, truth.2, trim_of_unpadded (by decide)]; decide),
        truth.2]
      exact sizable.tiny truth.1
  | false =>
      rcases sizable.again with found | absent
      · have foundBase : lookup? d (TypeText.ofText (withParams name inside)).base = some name := by
          rw [parts, found]
        rw [columnType_found (asked.trans truth) noList foundBase, parts]
        exact kept
      · have absentBase : lookup? d (TypeText.ofText (withParams name inside)).base = none := by
          rw [parts, absent]
        rw [columnType_absent (asked.trans truth) noList absentBase, parts]
        simp only [Option.isNone_some, Bool.and_false, Bool.false_eq_true, if_false]
        rcases sizable.isName.begins with ⟨c, rest, rfl, letter⟩
        refine trim_of_unpadded ⟨?_, ?_⟩
        · intro e found
          obtain rfl : c = e := by simpa [withParams] using found
          exact Name.isBlank_of_identifierChar (TypeText.isIdentifierChar_of_begins letter)
        · intro e found
          obtain rfl : ')' = e := by
            rw [withParams, List.getLast?_append_of_ne_nil _ (List.cons_ne_nil _ _)] at found
            exact Option.some.inj found
          decide

/-! Names that move on. -/

theorem columnType_ne_of_mem_moving :
    forall type, type ∈ moving d -> columnType d type none none ≠ type := by
  cases d with
  | mysql =>
      intro type listed same
      have facts : forall type, type ∈ moving .mysql -> type ∈ Token.typeNames ∧
          TypeText.isValueList type = true ∧
          withParams type (literalList []) ≠ type := by decide +kernel
      rcases facts type listed with ⟨known, isList, longer⟩
      rw [columnType_of_list known isList] at same
      exact longer same
  | postgresql => decide +kernel
  | sqlite => intro type listed; cases listed
  | sqlserver => decide +kernel

/-! Mapping again. -/

theorem columnType_trim (t : Text) (length : Option Text) (values : Option (List Text)) :
    columnType d (trim t) length values = columnType d t length values := by
  simp only [columnType, TypeText.ofText_trim, trim_of_unpadded (unpadded_trim t)]

/-- The text that a dialect has in place of a list, with any length. -/
theorem columnType_listType {text : Text} (list : d.listType? = some text) (n : Nat) :
    columnType d (withParams text (Text.ofNat n)) none none = withParams text (Text.ofNat n) := by
  rcases (tableFacts d).listType text list with ⟨inTable, sizedHere, noParen, loose⟩
  have digits : forall c, c ∈ Text.ofNat n -> isAnyDigit c = true := by
    intro c member
    rw [isAnyDigit, Numeral.isDecimalDigit_of_isDigit (Numeral.isDigit_of_mem_ofNat member),
      Bool.true_or]
  have filled : (Text.ofNat n).isEmpty = false :=
    List.isEmpty_eq_false_iff.mpr (Numeral.ofNat_ne_nil _)
  refine columnType_withParams ((tableFacts d).sizable text inTable (.inr sizedHere))
    (fun c member => isBlank_of_isAnyDigit (digits c member)) ?_
  simp only [sized, noParen, loose, sizedHere, filled, List.all_eq_true.mpr digits, Bool.false_and,
    Bool.not_false, Bool.and_self, Bool.false_eq_true, if_false, if_true]

theorem isName_of_isValueList {base : Text} (isList : TypeText.isValueList base = true) :
    TypeText.IsName base ∧ upper base = base := by
  rcases Bool.or_eq_true_iff.mp isList with enum | set
  · rw [beq_iff_eq.mp enum]
    exact ⟨by decide +kernel, by decide⟩
  · rw [beq_iff_eq.mp set]
    exact ⟨by decide +kernel, by decide⟩

theorem ofText_literalList {base : Text} (isList : TypeText.isValueList base = true)
    (values : List Text) :
    TypeText.ofText (withParams base (literalList values)) = ⟨base, some (literalList values)⟩ := by
  have bare : trim (literalList values) = literalList values := by
    refine trim_of_unpadded (unpadded_join [','] fun part member => ?_)
    rcases List.mem_map.mp member with ⟨value, _, rfl⟩
    exact ⟨List.cons_ne_nil _ _, unpadded_enclosed (by decide) (by decide) (double '\'' value)⟩
  rcases isName_of_isValueList isList with ⟨isName, capital⟩
  rw [TypeText.ofText_withParams isName, capital, isList, if_pos rfl, bare]

/-- A list of values is mapped onto itself: MySQL writes the same list, and the others write
a text that is no list. -/
theorem columnType_listText {base : Text} (isList : TypeText.isValueList base = true)
    {values : List Text} (plain : forall value, value ∈ values -> '\\' ∉ value) :
    columnType d (listText d base values) none none = listText d base values := by
  cases list : d.listType? with
  | some text =>
      have written : listText d base values = withParams text
          (Text.ofNat (longest values + 2)) := by
        rw [listText, list]
      rw [written, columnType_listType list]
  | none =>
      have written : listText d base values = withParams base (literalList values) := by
        rw [listText, list]
      have capital := (isName_of_isValueList isList).2
      have noTruth := isBoolean_of_isValueList isList
      have parts := ofText_literalList isList values
      rw [written, columnType_listed (by rw [parts, capital, noTruth])
        (by rw [parts, capital, isList]), parts, capital]
      change listText d base (listedValues (literalList values)) = _
      rw [listedValues_literalList plain, written]

/-- Mapping a type again changes nothing, unless what was written is one of the
types that move on. -/
theorem columnType_stable_iff {t : Text} (plain : '\\' ∉ t) (d : Dialect) :
    columnType d (columnType d t none none) none none = columnType d t none none ↔
      columnType d t none none ∉ moving d := by
  refine ⟨fun same listed => columnType_ne_of_mem_moving _ listed same, fun standing => ?_⟩
  cases truth : TypeText.isBoolean (upper (TypeText.ofText t).base)
      (none.or (TypeText.ofText t).params) with
  | true => rw [columnType_truth truth, (tableFacts d).truth]
  | false =>
      cases isList : TypeText.isValueList (upper (TypeText.ofText t).base) with
      | true =>
          rw [columnType_listed truth isList]
          refine columnType_listText isList fun value listed backslash => plain ?_
          exact TypeText.mem_of_mem_params (mem_of_mem_listedValues listed backslash)
      | false =>
          cases found : lookup? d (TypeText.ofText t).base with
          | none =>
              have itself : columnType d t none none = trim t := by
                rw [columnType_absent truth isList found]
                cases (TypeText.ofText t).params with
                | none => rfl
                | some inside => simp
              rw [itself, columnType_trim, itself]
          | some mapped =>
              rcases exists_entry_of_lookup? found with ⟨entry, inTable, _, rfl⟩
              rw [columnType_found truth isList found] at standing ⊢
              rcases @sized_again d entry.2 ((none.or (TypeText.ofText t).params).getD []) with
                plain | ⟨inside, reason, solid, written, kept⟩
              · rw [plain] at standing ⊢
                exact ((tableFacts d).standing entry.2 (mem_written inTable)).resolve_left standing
              · rw [written]
                exact columnType_withParams
                  ((tableFacts d).sizable entry.2 (mem_written inTable) reason) solid kept

/-- A time without a zone gets one when it is mapped again. -/
theorem datetime_moves :
    '\\' ∉ "DATETIME".toList ∧
      columnType .postgresql (columnType .postgresql "DATETIME" none none) none none ≠
      columnType .postgresql "DATETIME" none none := by
  have plain : '\\' ∉ "DATETIME".toList := by decide
  refine ⟨plain, fun same => (columnType_stable_iff plain .postgresql).mp same ?_⟩
  decide +kernel

end Dialect
end SchemaAtlas
