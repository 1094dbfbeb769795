import SchemaAtlas.Proofs.Table.Clause
import SchemaAtlas.Proofs.Table.Frame
import SchemaAtlas.Proofs.Token.Placed

namespace SchemaAtlas
namespace Table

open Token Dialect

/-!
Literals and default values.

A default value is a number with or without a sign, a text in quotes, `NULL`, or the current time.
None of its tokens ends the expression to which it belongs, except that `NULL` would do so anywhere
but in the first place.  So the expression goes on exactly to what follows the value.
-/

/-- A treatment of literals that brings in no backslash. -/
def KeepsPlain (g : Text -> Text) : Prop :=
  forall t, '\\' ∉ t -> '\\' ∉ g t

/-! Literals. -/

/-- A number, perhaps with a sign, or a text in quotes. -/
inductive Lit where
  | number (sign digits : Text) (signed : sign ∈ [[], ['+'], ['-']]) (isNumber : IsNumber digits)
      (ascii : forall c, c ∈ digits -> c.toNat < 0x80)
  | quoted (t : Text) (plain : '\\' ∉ t)

/-- Digits without a sign. -/
def Lit.ofDigits (digits : Text) (nonempty : digits ≠ [])
    (all : forall c, c ∈ digits -> Text.isDecimalDigit c = true)
    (ascii : forall c, c ∈ digits -> c.toNat < 0x80) : Lit :=
  .number [] digits List.mem_cons_self (isNumber_digits nonempty all) ascii

def numberHeads : List Char :=
  "0123456789.".toList

theorem numberHead_of_begins {c : Char} (ascii : c.toNat < 0x80)
    (first : Text.isDecimalDigit c = true ∨ c = '.') : c ∈ numberHeads := by
  rcases first with digit | rfl
  · have listed : ((List.range 0x80).all fun n =>
        !(Char.ofNat n).isDigit || numberHeads.contains (Char.ofNat n)) = true := by
      decide
    rw [Text.isDecimalDigit, if_pos ascii] at digit
    have here := List.all_eq_true.mp listed c.toNat (List.mem_range.mpr ascii)
    simpa [Char.ofNat_toNat, digit] using here
  · decide

theorem solid_number {digits : Text} (isNumber : IsNumber digits) : Solid digits := by
  have signs : (['.', 'e', 'E', '+', '-'].all fun c => !Text.isBlank c && c != '(') =
    true := by decide
  intro c member
  rcases isNumber.chars c member with digit | listed
  · refine ⟨isBlank_of_isDecimalDigit digit, ?_⟩
    rintro rfl
    exact absurd digit (by decide)
  · simpa using List.all_eq_true.mp signs c listed

namespace Lit

def frame (l : Lit) (g : Text -> Text) : Text :=
  match l with
  | .number sign digits _ _ _ => sign ++ digits
  | .quoted t _ => Literal.single (g t)

def forms (l : Lit) (g : Text -> Text) : List Form :=
  match l with
  | .number sign digits _ _ _ => sign.map (fun c => (.operator, [c])) ++ [(.number, digits)]
  | .quoted t _ => [(.string, Literal.single (g t))]

theorem isItem (l : Lit) : Frame.IsItem l.frame := by
  cases l with
  | number sign digits signed isNumber ascii =>
      have solid := solid_number isNumber
      rcases isNumber.begins with ⟨c, rest, split, first⟩
      have head := numberHead_of_begins (ascii c (split ▸ List.mem_cons_self)) first
      have heads : (numberHeads.all fun c => opens [c]) = true := by decide
      have opening := List.all_eq_true.mp heads c head
      simp only [List.mem_cons, List.not_mem_nil, or_false] at signed
      have behind : forall sign : Char, Text.isBlank sign = false ∧ sign ≠ '(' ->
          Solid (sign :: digits) := by
        intro sign plain d member
        rcases List.mem_cons.mp member with rfl | later
        · exact plain
        · exact solid d later
      rcases signed with rfl | rfl | rfl
      · exact Frame.isItem_word solid [c] split opening
      · exact Frame.isItem_word (behind '+' (by decide)) ['+'] rfl (by decide)
      · exact Frame.isItem_word (behind '-' (by decide)) ['-'] rfl (by decide)
  | quoted t plain => exact Frame.isItem_literal t

variable {g : Text -> Text} (keeps : KeepsPlain g)

include keeps

theorem gives (l : Lit) : Gives (l.frame g) fun body tokens =>
    tokens.map form = l.forms g ∧ spannedText? body tokens = some (Text.trim (l.frame g)) := by
  cases l with
  | number sign digits signed isNumber ascii =>
      simp only [List.mem_cons, List.not_mem_nil, or_false] at signed
      rcases signed with rfl | rfl | rfl
      · exact (lexeme_number isNumber).gives (by simp)
      · exact gives_signed (by decide) isNumber
      · exact gives_signed (by decide) isNumber
  | quoted t plain => exact (lexeme_literal (keeps t plain)).gives (by simp)

theorem segment (l : Lit) : Segment (l.frame g) (l.forms g) := by
  cases l with
  | number sign digits signed isNumber ascii =>
      have number := (lexeme_number isNumber).segment
      have withSign : forall sign, sign ∈ ['+', '-'] ->
          Segment (sign :: digits) [(.operator, [sign]), (.number, digits)] := by
        intro sign listed rest broken
        have cut : Lexeme.cut sign ([] ++ (digits ++ rest)) = (.token .operator, 0) :=
          cut_sign listed isNumber rest
        have mark : Reads [sign] [(.operator, [sign])] (digits ++ rest) := reads_of_cut cut
        exact mark.append (number rest broken)
      simp only [List.mem_cons, List.not_mem_nil, or_false] at signed
      rcases signed with rfl | rfl | rfl
      · exact number
      · exact withSign '+' (by decide)
      · exact withSign '-' (by decide)
  | quoted t plain => exact (lexeme_literal (keeps t plain)).segment

end Lit

/-! Default values. -/

/-- The words that may end the expression of a default value. -/
def stopWords : List Text :=
  "NOT".toList :: "NULL".toList :: endsDefault

/-- The token goes on with the expression of a default value. -/
def Passes (t : Token) : Prop :=
  t.word ∉ stopWords ∧ t.kind ≠ .openParen ∧ t.kind ≠ .closeParen

theorem defaultLength_of_passes {t : Token} (passes : Passes t) (isFirst : Bool)
    (rest : List Token) : defaultLength 0 isFirst (t :: rest) = 1 + defaultLength 0 false rest := by
  rcases passes with ⟨other, noOpening, noClosing⟩
  simp only [stopWords, List.mem_cons, not_or] at other
  have noEnd : endsDefault.contains t.word = false := by
    rw [← Bool.not_eq_true, List.contains_iff_mem]
    exact other.2.2
  have noNot : (t.word == "NOT".toList) = false := beq_eq_false_iff_ne.mpr other.1
  have noNull : (t.word == "NULL".toList) = false := beq_eq_false_iff_ne.mpr other.2.1
  have level : nesting t = 0 := by simp [nesting, noOpening, noClosing]
  simp only [defaultLength, noEnd, noNot, noNull, level, Bool.false_and, Bool.or_self,
    Bool.and_false, Bool.false_eq_true, if_false, Int.add_zero]

theorem defaultLength_append {tokens : List Token} (nonempty : tokens ≠ [])
    (each : forall t, t ∈ tokens -> Passes t) (isFirst : Bool) (rest : List Token) :
    defaultLength 0 isFirst (tokens ++ rest) = tokens.length + defaultLength 0 false rest := by
  induction tokens generalizing isFirst with
  | nil => exact absurd rfl nonempty
  | cons t tokens ih =>
      rw [List.cons_append, defaultLength_of_passes (each t List.mem_cons_self), List.length_cons]
      by_cases last : tokens = []
      · subst last
        simp
      · rw [ih last (fun u member => each u (List.mem_cons_of_mem t member))]
        omega

/-- Characters that begin no word. -/
def wordlessHeads : List Char :=
  '+' :: '-' :: '\x60' :: numberHeads

/-- A text with such a beginning is none of some words that begin otherwise. -/
theorem upper_not_mem {c : Char} (head : c ∈ wordlessHeads) (rest : Text) (words : List Text)
    (apart : (wordlessHeads.all fun c => words.all fun word => word.head? != some c) = true) :
    Text.upper (c :: rest) ∉ words := by
  have facts : (wordlessHeads.all fun c => decide (c.toNat < 0x80) && c.toUpper == c) =
    true := by decide
  have here := List.all_eq_true.mp facts c head
  simp only [Bool.and_eq_true, decide_eq_true_eq, beq_iff_eq] at here
  have begins : (Text.upper (c :: rest)).head? = some c := by
    simp [Text.upper, Text.upperChar, if_pos here.1, here.2]
  intro listed
  have differs := List.all_eq_true.mp (List.all_eq_true.mp apart c head) _ listed
  rw [begins] at differs
  simp at differs

theorem Lit.passes {l : Lit} {g : Text -> Text} {tokens : List Token}
    (formed : tokens.map form = l.forms g) : tokens ≠ [] ∧ forall t, t ∈ tokens -> Passes t := by
  have word : forall (t : Token) (kind : TokenKind) (c : Char) (rest : Text),
      t.form = (kind, c :: rest) ->
      kind ≠ .openParen ∧ kind ≠ .closeParen -> c ∈ wordlessHeads -> Passes t := by
    intro t kind c rest formed level head
    have outside := upper_not_mem head rest stopWords (by decide)
    refine ⟨?_, kind_of_form formed ▸ level.1, kind_of_form formed ▸ level.2⟩
    rw [Token.word, Token.upper, value_of_form formed]
    split
    · decide
    · exact outside
  constructor
  · rintro rfl
    cases l with
    | number sign digits signed isNumber ascii => simp [forms] at formed
    | quoted t plain => simp [forms] at formed
  · intro t member
    have listed : t.form ∈ l.forms g := formed ▸ List.mem_map_of_mem member
    cases l with
    | number sign digits signed isNumber ascii =>
        rcases isNumber.begins with ⟨c, rest, split, first⟩
        have head := numberHead_of_begins (ascii c (split ▸ List.mem_cons_self)) first
        rcases List.mem_append.mp listed with inSign | inNumber
        · rcases List.mem_map.mp inSign with ⟨d, inside, same⟩
          have plusMinus : d ∈ ['+', '-'] := by
            simp only [List.mem_cons, List.not_mem_nil, or_false] at signed
            rcases signed with rfl | rfl | rfl
            · cases inside
            · exact List.mem_cons.mpr (Or.inl (List.mem_singleton.mp inside))
            · exact List.mem_cons_of_mem _ inside
          refine word t .operator d [] same.symm (by decide) ?_
          exact List.mem_append_left ('\x60' :: numberHeads) plusMinus
        · have same := List.mem_singleton.mp inNumber
          rw [split] at same
          refine word t .number c rest same (by decide) ?_
          exact List.mem_append_right ['+', '-', '\x60'] head
    | quoted text plain =>
        have same := List.mem_singleton.mp listed
        have isString : t.kind = .string := kind_of_form same
        have wordless : t.word = [] := by simp [Token.word, isString]
        exact ⟨wordless ▸ by decide, by simp [isString], by simp [isString]⟩

/-! The words of a definition. -/

/-- The reserved words that stand in definitions by themselves. -/
def reservedWords : List Text :=
  ["NOT", "NULL", "PRIMARY", "KEY", "AUTO_INCREMENT", "UNIQUE", "DEFAULT", "COMMENT", "REFERENCES",
   "CREATE", "TABLE", "CONSTRAINT"]

def fixedWords : List Text :=
  "CURRENT_TIMESTAMP" :: reservedWords

theorem isItem_fixed (word : Text) (listed : word ∈ fixedWords) : Frame.IsItem fun _ => word := by
  have checked :
      (fixedWords.all fun word => opens word && word.all fun c => !Text.isBlank c && c != '(') =
        true := by
    decide
  exact Frame.isItem_of_checked (List.all_eq_true.mp checked word listed)

theorem lexeme_fixed (word : Text) (listed : word ∈ fixedWords) : IsLexeme word .word := by
  have bare : (fixedWords.all isBareWord) = true := by decide +kernel
  exact lexeme_word (List.all_eq_true.mp bare word listed)

theorem segment_reserved (word : Text) (listed : word ∈ reservedWords) :
    Segment word [(.keyword, word)] := by
  have kinds : (reservedWords.all fun word => wordKind word == .keyword) = true := by decide +kernel
  have segment := (lexeme_fixed word (List.mem_cons_of_mem _ listed)).segment
  rwa [formsOf, beq_iff_eq.mp (List.all_eq_true.mp kinds word listed)] at segment

theorem segment_pair {s t : Text} {forms more : List Form} (first : Segment s forms)
    (second : Segment t more) : Segment (s ++ ' ' :: t) (forms ++ more) :=
  first.append (broken_cons (by decide) t) (second.blank_cons (by decide))

theorem solid_identifier {name : Text} (identifier : Name.IsIdentifier name) : Solid name := by
  intro c member
  have char := identifier.chars c member
  exact ⟨Name.isBlank_of_identifierChar char, Name.ne_of_identifierChar char (by decide)⟩

theorem isItem_name {name : Text} (identifier : Name.IsIdentifier name) :
    Frame.IsItem fun _ => quoteColumn .mysql name := by
  have solid : Solid (quoteColumn .mysql name) := by
    intro c member
    have parts : c = '\x60' ∨ c ∈ name := by simpa [quoteColumn, or_comm] using member
    rcases parts with rfl | inside
    · decide
    · exact solid_identifier identifier c inside
  exact Frame.isItem_word solid ['\x60'] rfl (by decide)

/-- The default value of a column. -/
inductive Preset where
  | literal (l : Lit)
  | null
  | now

namespace Preset

def frame (p : Preset) (g : Text -> Text) : Text :=
  match p with
  | .literal l => l.frame g
  | .null => "NULL".toList
  | .now => "CURRENT_TIMESTAMP".toList

def forms (p : Preset) (g : Text -> Text) : List Form :=
  match p with
  | .literal l => l.forms g
  | .null => [(.keyword, "NULL".toList)]
  | .now => [(.identifier, "CURRENT_TIMESTAMP".toList)]

theorem isItem (p : Preset) : Frame.IsItem p.frame := by
  cases p with
  | literal l => exact l.isItem
  | null => exact isItem_fixed _ (by decide)
  | now => exact isItem_fixed _ (by decide)

theorem gives {g : Text -> Text} (keeps : KeepsPlain g) (p : Preset) :
    Gives (p.frame g) fun body tokens =>
    tokens.map form = p.forms g ∧ spannedText? body tokens = some (Text.trim (p.frame g)) := by
  cases p with
  | literal l => exact l.gives keeps
  | null => exact (lexeme_fixed "NULL".toList (by decide)).gives (by simp)
  | now => exact (lexeme_fixed "CURRENT_TIMESTAMP".toList (by decide)).gives (by simp)

/-- The expression of a default value ends only behind the value. -/
theorem defaultLength_eq {p : Preset} {g : Text -> Text} {tokens : List Token}
    (formed : tokens.map form = p.forms g) (rest : List Token) :
    defaultLength 0 true (tokens ++ rest) = tokens.length + defaultLength 0 false rest := by
  cases p with
  | literal l =>
      rcases l.passes formed with ⟨nonempty, each⟩
      exact defaultLength_append nonempty each true rest
  | null =>
      rcases List.map_eq_singleton_iff.mp formed with ⟨t, rfl, formedNull⟩
      -- in the first place `NULL` is the value itself
      have word := Mark.word_of_form formedNull (by decide)
      have level : nesting t = 0 := by simp [nesting, kind_of_form formedNull]
      have noEnd : endsDefault.contains "NULL".toList = false := by decide
      have noNot : ("NULL".toList == "NOT".toList) = false := by decide
      simp only [List.singleton_append, List.length_singleton, defaultLength, word, noEnd, noNot,
        level, Bool.false_and, Bool.not_true, Bool.and_false, Bool.or_self, Bool.false_eq_true,
          if_false, Int.add_zero]
  | now =>
      rcases List.map_eq_singleton_iff.mp formed with ⟨t, rfl, formedNow⟩
      have word : t.word = "CURRENT_TIMESTAMP".toList := by
        rw [Token.word, Token.upper, kind_of_form formedNow, value_of_form formedNow]
        decide
      have passes : Passes t :=
        ⟨word ▸ by decide, by simp [kind_of_form formedNow], by simp [kind_of_form formedNow]⟩
      exact defaultLength_of_passes passes true rest

end Preset

end Table
end SchemaAtlas
