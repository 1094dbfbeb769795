import Mathlib.Algebra.Group.Nat.Defs
import SchemaAtlas.Proofs.Insert.Overlong
import SchemaAtlas.Proofs.Insert.Written
import SchemaAtlas.Proofs.Name
import SchemaAtlas.Proofs.Text

namespace SchemaAtlas

/-!
Columns in quotes.

The list of columns of an insertion ends at the first closing parenthesis, and it is cut at every
comma.  Neither looks at quotes.  So no column that was read holds one of these two characters, and
of the names in quotes exactly those that hold neither are read back.
-/

namespace Phrase

variable {α : Type}

/-- What a search finds is a reading behind some beginning of the text. -/
theorem exists_mem_of_search? {p : Phrase α} {t : Text} {reading : α × Text}
    (found : search? p t = some reading) :
    exists front behind, t = front ++ behind ∧ reading ∈ p behind := by
  induction t with
  | nil => exact ⟨[], [], rfl, List.mem_of_head? found⟩
  | cons c rest ih =>
      rw [search?] at found
      cases here : (p (c :: rest)).head? with
      | some first =>
          rw [here] at found
          exact ⟨[], c :: rest, rfl, List.mem_of_head? (here.trans found)⟩
      | none =>
          rw [here] at found
          rcases ih found with ⟨front, behind, rfl, member⟩
          exact ⟨c :: front, behind, rfl, member⟩

theorem exists_of_mem_bind {β : Type} {p : Phrase α} {q : α -> Phrase β} {t : Text}
    {reading : β × Text} (member : reading ∈ (p >>= q) t) :
    exists first, first ∈ p t ∧ reading ∈ q first.1 first.2 :=
  List.mem_flatMap.mp member

end Phrase

namespace Name

/-- A name without its quotes is a part of what was spelled. -/
theorem mem_of_mem_stripQuotes {spelled : Text} {c : Char} (member : c ∈ stripQuotes spelled) :
    c ∈ spelled := by
  have inTrimmed : c ∈ Text.trim spelled := by
    simp only [stripQuotes] at member
    split at member
    · exact List.mem_of_mem_drop (List.dropLast_subset _ member)
    · exact member
  rcases Text.exists_append_trim_append spelled with ⟨front, behind, _, whole⟩
  rw [whole]
  exact List.mem_append_right _ (List.mem_append_left _ inTrimmed)

end Name

namespace Insert

/-! Columns that were read. -/

theorem not_mem_of_mem_columnList {t : Text} {reading : Text × Text}
    (member : reading ∈ columnList t) : ')' ∉ reading.1 := by
  unfold columnList at member
  split at member
  · split at member
    · obtain rfl := List.mem_singleton.mp member
      intro inside
      exact absurd (List.mem_takeWhile_imp inside) (by decide)
    · cases member
  · cases member

/-- The list of columns that an insertion spells holds no closing parenthesis. -/
theorem not_mem_of_spelling? {t : Text} {spelled : Spelling} (found : spelling? t = some spelled) :
    ')' ∉ spelled.columns.getD [] := by
  rcases Option.map_eq_some_iff.mp found with ⟨reading, searched, rfl⟩
  rcases Phrase.exists_mem_of_search? searched with ⟨_, _, _, member⟩
  rcases Phrase.exists_of_mem_bind member with ⟨_, _, behindInsert⟩
  rcases Phrase.exists_of_mem_bind behindInsert with ⟨_, _, behindIgnore⟩
  rcases Phrase.exists_of_mem_bind behindIgnore with ⟨_, _, behindInto⟩
  rcases Phrase.exists_of_mem_bind behindInto with ⟨_, _, behindTable⟩
  rcases Phrase.exists_of_mem_bind behindTable with ⟨_, _, behindSpace⟩
  rcases Phrase.exists_of_mem_bind behindSpace with ⟨⟨columns, more⟩, listed, behindColumns⟩
  rcases Phrase.exists_of_mem_bind behindColumns with ⟨_, _, beforeValues⟩
  rcases Phrase.exists_of_mem_bind beforeValues with ⟨_, _, behindValues⟩
  rcases Phrase.exists_of_mem_bind behindValues with ⟨_, _, beforeRows⟩
  rcases Phrase.exists_of_mem_bind beforeRows with ⟨_, _, given⟩
  obtain rfl := List.mem_singleton.mp given
  rcases List.mem_append.mp listed with present | absent
  · rcases List.mem_map.mp present with ⟨inner, inList, same⟩
    obtain rfl : some inner.1 = columns := congrArg Prod.fst same
    exact not_mem_of_mem_columnList inList
  · obtain rfl : columns = none := congrArg Prod.fst (List.mem_singleton.mp absent)
    exact List.not_mem_nil

/-- No column of an insertion holds a comma or a closing parenthesis, however it is spelled. -/
theorem plain_of_mem_columns {t : Text} {i : Insert} (read : ofText t = .ok (some i))
    {column : Text} (member : column ∈ i.columns) : ',' ∉ column ∧ ')' ∉ column := by
  unfold ofText at read
  cases found : spelling? t with
  | none => simp only [found] at read; cases read
  | some spelled =>
      simp only [found] at read
      split at read
      · cases read
      · split at read
        · cases read
        · obtain rfl := Option.some.inj (Except.ok.inj read)
          rcases List.mem_map.mp member with ⟨piece, kept, rfl⟩
          have inPiece := Text.mem_of_mem_splitWhere (List.mem_of_mem_filter kept)
          constructor
          · intro comma
            exact absurd (inPiece ',' (Name.mem_of_mem_stripQuotes comma)).2 (by decide)
          · intro closing
            exact not_mem_of_spelling? found (inPiece ')' (Name.mem_of_mem_stripQuotes closing)).1

/-! Columns that are written in backticks. -/

variable {table : Text} {names : List Text}

def inBackticks (name : Text) : Text :=
  '\x60' :: name ++ ['\x60']

/-- The names in backticks, with a comma and a space between neighbours. -/
def quotedList (names : List Text) : Text :=
  Text.join ", ".toList (names.map inBackticks)

theorem columnNames_quotedList (free : forall name, name ∈ names -> ',' ∉ name) :
    columnNames (quotedList names) = names := by
  cases names with
  | nil => rfl
  | cons first rest =>
      have parts : columnNames (quotedList (first :: rest)) =
          ((first :: rest).map inBackticks).map Name.stripQuotes := by
        apply columnNames_join_parts (by simp)
        · intro part listed
          rcases List.mem_map.mp listed with ⟨name, member, rfl⟩
          simpa [inBackticks] using free name member
        · intro part listed
          rcases List.mem_map.mp listed with ⟨name, _, rfl⟩
          rfl
      have bare : Name.stripQuotes ∘ inBackticks = id := funext Name.stripQuotes_backticks
      rw [parts, List.map_map, bare, List.map_id]

/-- A comma cuts a name in two, and each half keeps one of the backticks. -/
example : columnNames (quotedList ["a,b".toList]) = ["\x60a".toList, "b\x60".toList] := by
  decide

theorem not_mem_quotedList (closed : forall name, name ∈ names -> ')' ∉ name) :
    ')' ∉ quotedList names := by
  intro member
  rcases Text.mem_join member with inSeparator | ⟨part, listed, inside⟩
  · exact absurd inSeparator (by decide)
  · rcases List.mem_map.mp listed with ⟨name, inNames, rfl⟩
    exact closed name inNames (by simpa [inBackticks] using inside)

/-- The form of an insertion finds a list of columns in backticks, if nothing in
it closes the list. -/
theorem spelling?_quotedList (identifier : Name.IsIdentifier table)
    (closed : forall name, name ∈ names -> ')' ∉ name) (row : Text) :
    spelling? (statementText table (quotedList names) (inParens row)) =
      some ⟨table, some (quotedList names), inParens row⟩ :=
  spelling?_statementText identifier (not_mem_quotedList closed)
    (Text.fails_at_head '(' _ (by decide))

/-- A row of written cells under columns in backticks. -/
theorem ofText_quotedList (identifier : Name.IsIdentifier table)
    (plain : forall name, name ∈ names -> ',' ∉ name ∧ ')' ∉ name) (row : List Cell) :
    ofText (statementText table (quotedList names) (inParens (writtenRow row))) =
      .ok (some ⟨table, names, [row.map Cell.value], none⟩) := by
  have spelled := spelling?_quotedList identifier
    (fun name member => (plain name member).2) (writtenRow row)
  have named : columnNames (quotedList names) = names :=
    columnNames_quotedList fun name member => (plain name member).1
  have filled : table.isEmpty = false := List.isEmpty_eq_false_iff.mpr identifier.ne_nil
  have texts : rowTexts (inParens (writtenRow row)) = [writtenRow row] :=
    rowTexts_inParens (writtenRow_sealed row)
  have read : [writtenRow row].mapM cells = .ok [row.map Cell.value] := by
    rw [List.mapM_cons, cells_writtenRow]
    rfl
  simp only [ofText, spelled, identifier.qualifiedName_eq, filled, Bool.false_eq_true, if_false,
    texts, read, Option.getD_some, named]

/-! Rows that count the columns. -/

/-- The numbers from one up to a number. -/
def counting (count : Nat) : List Nat :=
  (List.range count).map (· + 1)

/-- The numbers as a row spells them. -/
def countingText (count : Nat) : Text :=
  Text.join ", ".toList ((counting count).map Text.ofNat)

def countingCells (count : Nat) : List Scalar :=
  (counting count).map fun n : Nat => .int n

/-- A statement that numbers columns in backticks. -/
def countingStatement (names : List Text) : Text :=
  statementText "t".toList (quotedList names) (inParens (countingText names.length))

/-- The insertion that the statement is meant to be. -/
def countingInsert (names : List Text) : Insert :=
  ⟨"t".toList, names, [countingCells names.length], none⟩

theorem isIdentifier_t : Name.IsIdentifier "t".toList :=
  Name.isIdentifier_of_checked (by decide) (by decide)

theorem length_ofNat_le_iff (n : Nat) :
    (Text.ofNat n).length ≤ Numeral.digitLimit ↔ n < 10 ^ Numeral.digitLimit :=
  Nat.length_toDigits_le_iff (by decide) (by decide)

/-- As long as every number has few enough digits, the row is one of written cells. -/
theorem exists_cells_of_counting {count : Nat} (few : count < 10 ^ Numeral.digitLimit) :
    exists row : List Cell, writtenRow row = countingText count ∧
      row.map Cell.value = countingCells count := by
  have short : forall n, n ∈ counting count -> (Text.ofNat ((n : Int).natAbs)).length ≤ 4300 := by
    intro n member
    rcases List.mem_map.mp member with ⟨i, inRange, rfl⟩
    have below := List.mem_range.mp inRange
    exact (length_ofNat_le_iff _).mpr (by simp only [Int.natAbs_natCast]; omega)
  refine ⟨(counting count).attach.map fun n => .whole n.1 (short n.1 n.2), ?_, ?_⟩
  · have spelled : (counting count).attach.map (fun n => Text.ofNat n.1) =
        (counting count).map Text.ofNat :=
      List.attach_map_val ..
    rw [writtenRow, List.map_map, countingText, ← spelled]
    rfl
  · rw [List.map_map]
    exact @List.attach_map_val _ _ (counting count) fun n : Nat => Scalar.int n

/-- A row that counts too far cannot be read, because its last number has too many digits. -/
theorem ofText_countingStatement_of_many (closed : forall name, name ∈ names -> ')' ∉ name)
    (many : 10 ^ Numeral.digitLimit ≤ names.length) :
    ofText (countingStatement names) = .error .tooManyDigits := by
  let last := Text.ofNat names.length
  have digits : forall n c, c ∈ Text.ofNat n -> Text.isDecimalDigit c = true :=
    fun _ _ member => Numeral.isDecimalDigit_of_isDigit (Numeral.isDigit_of_mem_ofNat member)
  have listed : last ∈ (counting names.length).map Text.ofNat := by
    have positive : 0 < names.length := Nat.lt_of_lt_of_le (Nat.pow_pos (by decide)) many
    exact List.mem_map_of_mem
      (List.mem_map.mpr ⟨names.length - 1, List.mem_range.mpr (by omega), by omega⟩)
  have bare : Text.trim last = last :=
    Text.trim_of_unpadded
      (Text.unpadded_of_forall fun c member => Token.isBlank_of_isDecimalDigit (digits _ c member))
  have long : Scalar.Overlong (Text.trim last) := by
    rw [bare]
    exact ⟨[], last, by decide, rfl, digits _, Nat.lt_of_not_le fun few =>
      Nat.not_lt.mpr many ((length_ofNat_le_iff _).mp few)⟩
  have rowFails : cells (countingText names.length) = .error .tooManyDigits := by
    rw [countingText, cells_join]
    · exact mapM_eq_error_iff.mpr ⟨last, listed, Scalar.ofText_eq_error_iff.mpr long⟩
    · intro part member
      rcases List.mem_map.mp member with ⟨n, _, rfl⟩
      exact Numeral.ofNat_ne_nil n
    · intro part member
      rcases List.mem_map.mp member with ⟨n, _, rfl⟩
      exact sealed_of_digits (digits n)
  have spelled := spelling?_quotedList isIdentifier_t closed (countingText names.length)
  have filled : "t".toList.isEmpty = false := rfl
  have texts : rowTexts (inParens (countingText names.length)) = [countingText names.length] := by
    apply rowTexts_inParens
    apply Sealed.join sealed_comma_space
    intro part member
    rcases List.mem_map.mp member with ⟨n, _, rfl⟩
    exact (sealed_of_digits (digits n)).mono fun _ => isParen_of_isCut
  have read : [countingText names.length].mapM cells = .error .tooManyDigits :=
    mapM_eq_error_iff.mpr ⟨_, List.mem_singleton_self _, rowFails⟩
  simp only [ofText, countingStatement, spelled, isIdentifier_t.qualifiedName_eq, filled,
    Bool.false_eq_true, if_false, texts, read]

/-- Names in backticks are read back as the columns of an insertion exactly if none of them holds
a comma or a closing parenthesis.  Whatever else they hold, quotes and parentheses that open
included, is read as it stands.  The numbers under them are read as long as they have no more
digits than numbers may have. -/
theorem ofText_countingStatement_iff (names : List Text) :
    ofText (countingStatement names) = .ok (some (countingInsert names)) ↔
      (forall name, name ∈ names -> ',' ∉ name ∧ ')' ∉ name) ∧
        names.length < 10 ^ Numeral.digitLimit := by
  constructor
  · intro read
    have plain : forall name, name ∈ names -> ',' ∉ name ∧ ')' ∉ name :=
      fun _ member => plain_of_mem_columns read member
    refine ⟨plain, Nat.lt_of_not_le fun many => ?_⟩
    rw [ofText_countingStatement_of_many (fun name member => (plain name member).2) many] at read
    cases read
  · rintro ⟨plain, few⟩
    rcases exists_cells_of_counting few with ⟨row, spelled, values⟩
    rw [countingStatement, ← spelled, ofText_quotedList isIdentifier_t plain row, values]
    rfl

end Insert
end SchemaAtlas
