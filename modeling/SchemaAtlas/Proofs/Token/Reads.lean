import SchemaAtlas.Literal
import SchemaAtlas.Proofs.Name
import SchemaAtlas.Token.Scan

namespace SchemaAtlas
namespace Token

/-!
Texts and the tokens that they give.

A text gives certain tokens only where what follows does not run into its last token, so every
statement below carries the text behind.  It leaves out where tokens stand: reading a definition
without default values looks at their kinds and their texts alone.

A segment is a text that gives its tokens in front of every break.  Segments are put together with
separators that begin with a break, and the whole is a segment again.
-/

/-- What a token shows: its kind and its text, but not its place. -/
abbrev Form := TokenKind × Text

def form (t : Token) : Form :=
  (t.kind, t.value)

theorem kind_of_form {t : Token} {f : Form} (formed : t.form = f) : t.kind = f.1 :=
  congrArg Prod.fst formed

theorem value_of_form {t : Token} {f : Form} (formed : t.form = f) : t.value = f.2 :=
  congrArg Prod.snd formed

theorem kinds_of_forms {tokens : List Token} {forms : List Form}
    (formed : tokens.map form = forms) : tokens.map kind = forms.map Prod.fst := by
  rw [← formed, List.map_map]
  rfl

/-- A text gives tokens of certain forms in front of another text, wherever it stands. -/
def Reads (t : Text) (forms : List Form) (rest : Text) : Prop :=
  forall place, exists tokens : List Token, tokens.map form = forms ∧
    scanFrom .keep place (t ++ rest) = tokens ++ scanFrom .keep (place.after t) rest

theorem reads_nil (rest : Text) : Reads [] [] rest :=
  fun _ => ⟨[], rfl, rfl⟩

theorem Reads.append {first second rest : Text} {forms more : List Form}
    (reads : Reads first forms (second ++ rest)) (readsMore : Reads second more rest) :
    Reads (first ++ second) (forms ++ more) rest := by
  intro place
  rcases reads place with ⟨tokens, formed, scanned⟩
  rcases readsMore (place.after first) with ⟨others, othersFormed, othersScanned⟩
  refine ⟨tokens ++ others, ?_, ?_⟩
  · rw [List.map_append, formed, othersFormed]
  · have moved : place.after (first ++ second) = (place.after first).after second :=
      List.foldl_append
    rw [List.append_assoc, scanned, othersScanned, moved, List.append_assoc]

/-- The forms of the tokens that one piece gives. -/
def formsOf (kind : LexemeKind) (value : Text) : List Form :=
  match kind with
  | .comment => []
  | .blank => []
  | .word => [(wordKind value, value)]
  | .token k => [(k, value)]

/-- A text that is cut off as one piece. -/
theorem reads_of_cut {c : Char} {body rest : Text} {kind : LexemeKind}
    (cut : Lexeme.cut c (body ++ rest) = (kind, body.length)) :
    Reads (c :: body) (formsOf kind (c :: body)) rest := by
  intro place
  refine ⟨(ofLexeme? .keep place kind (c :: body)).toList, ?_, ?_⟩
  · cases kind with
    | comment => rfl
    | blank => rfl
    | word => rfl
    | token k => rfl
  · rw [List.cons_append, scanFrom, cut]
    simp only [List.take_left, List.drop_left]

/-! Single pieces. -/

theorem comment?_eq_none {c : Char} (noLine : c ≠ '-') (noBlock : c ≠ '/') (rest : Text) :
    Lexeme.comment? c rest = none := by
  cases rest with
  | nil => rfl
  | cons d after => simp [Lexeme.comment?, noLine, noBlock]

/-- The blanks at the beginning of a text are skipped together. -/
theorem scanFrom_of_blank {c : Char} (blank : Text.isBlank c = true) (place : Place) (rest : Text) :
    scanFrom .keep place (c :: rest) =
      scanFrom .keep (place.after (c :: rest.takeWhile Text.isBlank))
        (rest.dropWhile Text.isBlank) := by
  have noLine : c ≠ '-' := by rintro rfl; exact absurd blank (by decide)
  have noBlock : c ≠ '/' := by rintro rfl; exact absurd blank (by decide)
  have cut : Lexeme.cut c rest = (.blank, (rest.takeWhile Text.isBlank).length) := by
    simp only [Lexeme.cut, comment?_eq_none noLine noBlock, blank, if_true]
  rw [scanFrom, cut]
  simp only [Text.take_length_takeWhile, Text.drop_length_takeWhile]
  rfl

/-- A blank gives no token, whatever stands behind it. -/
theorem reads_blank {c : Char} (blank : Text.isBlank c = true) (rest : Text) :
    Reads [c] [] rest := by
  intro place
  refine ⟨[], rfl, ?_⟩
  change scanFrom .keep place (c :: rest) = scanFrom .keep (place.step c) rest
  rw [scanFrom_of_blank blank]
  -- the run of blanks is one piece, so where it goes on, the rest of it is a piece as well
  cases rest with
  | nil => rfl
  | cons d after =>
      cases further : Text.isBlank d with
      | true =>
          rw [scanFrom_of_blank further, List.takeWhile_cons_of_pos further,
            List.dropWhile_cons_of_pos further]
          rfl
      | false =>
          have stays : ¬ Text.isBlank d = true := by simp [further]
          rw [List.takeWhile_cons_of_neg stays, List.dropWhile_cons_of_neg stays]
          rfl

theorem number?_eq_none {c : Char} {rest : Text} (noDigit : Text.isDecimalDigit c = false)
    (noPoint : c ≠ '.') : Lexeme.number? (c :: rest) = none := by
  have none : Lexeme.digitCount (c :: rest) = 0 := by simp [Lexeme.digitCount, noDigit]
  simp only [Lexeme.number?, none, List.drop_zero]
  simp [noPoint]

/-- The marks that are tokens by themselves, with their kinds. -/
def marks : List (Char × TokenKind) :=
  [(',', .comma), (';', .semicolon), ('(', .openParen), (')', .closeParen)]

theorem cut_mark {mark : Char × TokenKind} (listed : mark ∈ marks) (rest : Text) :
    Lexeme.cut mark.1 rest = (.token mark.2, 0) := by
  have facts : forall m : Char × TokenKind, m ∈ marks ->
      m.1 ∉ ['-', '/', '\'', '"', '\x60', '[', '.'] ∧ Text.isBlank m.1 = false ∧
        Text.isDecimalDigit m.1 = false ∧ Lexeme.punctuation? m.1 = some m.2 := by decide
  rcases facts mark listed with ⟨other, solid, noDigit, punctuation⟩
  simp only [List.mem_cons, List.not_mem_nil, or_false, not_or] at other
  rcases other with ⟨noLine, noBlock, noSingle, noDouble, noBacktick, noBracket, noPoint⟩
  simp [Lexeme.cut, comment?_eq_none noLine noBlock, solid, Lexeme.quotedPiece?, noSingle, noDouble,
    noBacktick, noBracket, number?_eq_none noDigit noPoint, punctuation]

/-- A mark between tokens is a token itself. -/
theorem reads_mark (mark : Char × TokenKind) (listed : mark ∈ marks) (rest : Text) :
    Reads [mark.1] [(mark.2, [mark.1])] rest :=
  @reads_of_cut mark.1 [] rest _ (cut_mark listed rest)

/-! Segments. -/

/-- The characters that end every token in front of them. -/
def breaks : List Char :=
  [' ', '\n', ',', '(', ')', ';']

/-- The text is empty or begins with a break. -/
def Broken (rest : Text) : Prop :=
  forall c, rest.head? = some c -> c ∈ breaks

/-- A test that fails on every break fails where a break stands. -/
theorem Broken.fails {rest : Text} (broken : Broken rest) (test : Char -> Bool)
    (outside : (breaks.all fun c => !test c) = true) :
    forall c, rest.head? = some c -> test c = false := by
  intro c found
  simpa using List.all_eq_true.mp outside c (broken c found)

theorem broken_nil : Broken [] := by
  intro c found
  cases found

theorem broken_cons {c : Char} (listed : c ∈ breaks) (rest : Text) : Broken (c :: rest) := by
  intro d found
  cases found
  exact listed

theorem Broken.append {first second : Text} (brokenFirst : Broken first)
    (brokenSecond : Broken second) : Broken (first ++ second) := by
  cases first with
  | nil => exact brokenSecond
  | cons c rest => exact brokenFirst

/-- A text that gives tokens of certain forms in front of every break. -/
def Segment (t : Text) (forms : List Form) : Prop :=
  forall rest, Broken rest -> Reads t forms rest

/-- A text that is cut off as one piece in front of every break. -/
def IsLexeme (t : Text) (kind : LexemeKind) : Prop :=
  forall rest, Broken rest -> exists c body, t = c :: body ∧
    Lexeme.cut c (body ++ rest) = (kind, body.length)

theorem IsLexeme.segment {t : Text} {kind : LexemeKind} (lexeme : IsLexeme t kind) :
    Segment t (formsOf kind t) := by
  intro rest broken
  rcases lexeme rest broken with ⟨c, body, rfl, cut⟩
  exact reads_of_cut cut

/-- The characters that begin neither words nor numbers of digits. -/
def signs : List Char :=
  ['-', '/', '\'', '"', '\x60', '[', '.', ',', ';', '(', ')']

/-- A test that fails on every sign tells characters from signs. -/
theorem not_mem_signs {test : Char -> Bool} {c : Char} (holds : test c = true)
    (outside : (signs.all fun d => !test d) = true) : c ∉ signs := by
  intro listed
  have fails := List.all_eq_true.mp outside c listed
  rw [holds] at fails
  cases fails

/-- Behind a character that is neither blank nor sign, only numbers and words are left. -/
theorem cut_of_not_mem_signs {c : Char} (solid : Text.isBlank c = false) (plain : c ∉ signs)
    (rest : Text) : Lexeme.cut c rest =
      match Lexeme.number? (c :: rest) with
      | some n => (.token .number, n - 1)
      | none =>
        if Lexeme.isBareChar c then (.word, (rest.takeWhile Lexeme.isBareChar).length)
        else (.token .operator, Lexeme.operatorLength c rest) := by
  simp only [signs, List.mem_cons, List.not_mem_nil, or_false, not_or] at plain
  rcases plain with ⟨noLine, noBlock, noSingle, noDouble, noBacktick, noBracket, noPoint, noComma,
    noSemicolon, noOpening, noClosing⟩
  have unquoted : Lexeme.quotedPiece? c rest = none := by
    simp [Lexeme.quotedPiece?, noSingle, noDouble, noBacktick, noBracket]
  have unmarked : Lexeme.punctuation? c = none := by
    simp [Lexeme.punctuation?, noPoint, noComma, noSemicolon, noOpening, noClosing]
  cases number : Lexeme.number? (c :: rest) with
  | some n => simp [Lexeme.cut, comment?_eq_none noLine noBlock, solid, unquoted, number]
  | none => simp [Lexeme.cut, comment?_eq_none noLine noBlock, solid, unquoted, number, unmarked]

/-! Words, literals and names in backticks are one token each. -/

/-- A text that is a bare word: letters, digits and underscores, the first of them no digit. -/
def isBareWord : Text -> Bool
  | [] => false
  | c :: rest => Name.isIdentifierChar c && !c.isDigit && (c :: rest).all Lexeme.isBareChar

theorem isBareWord_of_isIdentifier {name : Text} (identifier : Name.IsIdentifier name) :
    isBareWord name = true := by
  have ascii : ((List.range 0x80).all fun n =>
      !Name.isIdentifierChar (Char.ofNat n) || Lexeme.isBareChar (Char.ofNat n)) = true := by decide
  have bare : forall c, c ∈ name -> Lexeme.isBareChar c = true := by
    intro c member
    have char := identifier.chars c member
    have bounds := Name.identifierChar_bounds char
    have here := List.all_eq_true.mp ascii c.toNat (List.mem_range.mpr (by omega))
    simpa [Char.ofNat_toNat, char] using here
  rcases identifier.begins with ⟨c, rest, rfl, noDigit⟩
  simp only [isBareWord, identifier.chars c List.mem_cons_self, noDigit, List.all_eq_true.mpr bare,
    Bool.not_false, Bool.and_self]

theorem lexeme_word {word : Text} (bare : isBareWord word = true) : IsLexeme word .word := by
  intro rest broken
  cases word with
  | nil => cases bare
  | cons c body =>
      simp only [isBareWord, List.all_cons, Bool.and_eq_true, Bool.not_eq_true'] at bare
      rcases bare with ⟨⟨char, noDigit⟩, first, others⟩
      have noDecimal : Text.isDecimalDigit c = false := by
        have bounds := Name.identifierChar_bounds char
        have small : c.toNat < 0x80 := by omega
        simp only [Text.isDecimalDigit, if_pos small, noDigit]
      have noPoint : c ≠ '.' := Name.ne_of_identifierChar char (by decide)
      have run : (body ++ rest).takeWhile Lexeme.isBareChar = body :=
        Text.takeWhile_append_of_head (fun d member => List.all_eq_true.mp others d member)
          (broken.fails _ (by decide))
      have cut : Lexeme.cut c (body ++ rest) = (.word, body.length) := by
        rw [cut_of_not_mem_signs (Name.isBlank_of_identifierChar char)
          (not_mem_signs char (by decide))]
        simp only [number?_eq_none noDecimal noPoint, first, if_true, run]
      exact ⟨c, body, rfl, cut⟩

theorem segment_word {word : Text} (bare : isBareWord word = true) :
    Segment word [(wordKind word, word)] :=
  (lexeme_word bare).segment

theorem isBlank_of_isDecimalDigit {c : Char} (digit : Text.isDecimalDigit c = true) :
    Text.isBlank c = false := by
  -- the rows of digits and the intervals of white space lie apart
  have apart : forall z, z ∈ Text.digitZeros -> forall interval, interval ∈ Text.blankIntervals ->
      interval.2 < z ∨ z + 10 ≤ interval.1 := by decide
  have row : exists z, z ∈ Text.digitZeros ∧ z ≤ c.toNat ∧ c.toNat < z + 10 := by
    unfold Text.isDecimalDigit at digit
    split at digit
    · have bounds := Char.isDigit_iff_toNat.mp digit
      have top : '9'.toNat = 57 := rfl
      have bottom : '0'.toNat = 48 := rfl
      exact ⟨0x30, by decide, by omega, by omega⟩
    · rcases Option.isSome_iff_exists.mp digit with ⟨value, found⟩
      rcases Option.map_eq_some_iff.mp found with ⟨z, first, _⟩
      have fits := List.find?_some first
      simp only [Bool.and_eq_true, decide_eq_true_eq] at fits
      exact ⟨z, List.mem_of_find?_eq_some first, fits⟩
  rcases row with ⟨z, listed, low, high⟩
  simp only [Text.isBlank, Text.inIntervals, List.any_eq_false, Bool.and_eq_true,
    decide_eq_true_eq, not_and]
  intro interval inside above below
  rcases apart z listed interval inside with before | behind
  · omega
  · omega

/-- Every backslash of the text stands in front of a character, and in front of
none of the given ones. -/
def Harmless (special : List Char) (t : Text) : Prop :=
  forall front rest, t = front ++ '\\' :: rest -> exists d more, rest = d :: more ∧ d ∉ special

theorem harmless_of_not_mem (special : List Char) {t : Text} (plain : '\\' ∉ t) :
    Harmless special t := by
  rintro front rest rfl
  simp at plain

theorem Harmless.mono {special fewer : List Char} {t : Text} (harmless : Harmless special t)
    (listed : forall d, d ∈ fewer -> d ∈ special) : Harmless fewer t := by
  intro front rest split
  rcases harmless front rest split with ⟨d, more, behind, outside⟩
  exact ⟨d, more, behind, fun member => outside (listed d member)⟩

theorem harmless_cons_iff {special : List Char} {c : Char} {t : Text} :
    Harmless special (c :: t) ↔ (c = '\\' -> exists d more, t = d :: more ∧ d ∉ special) ∧
      Harmless special t := by
  constructor
  · intro harmless
    refine ⟨?_, ?_⟩
    · rintro rfl
      exact harmless [] t rfl
    · rintro front rest rfl
      exact harmless (c :: front) rest rfl
  · rintro ⟨here, later⟩ front rest split
    cases front with
    | nil =>
        rcases List.cons.inj split with ⟨rfl, rfl⟩
        exact here rfl
    | cons d front => exact later front rest (List.cons.inj split).2

/-- A quote closes a literal where no other quote stands behind it. -/
theorem quoteEnd?_closing {quote : Char} {rest : Text} (behind : rest.head? ≠ some quote)
    (escapes : Bool) : Lexeme.quoteEnd? quote escapes (quote :: rest) = some 1 := by
  cases rest with
  | nil => simp [Lexeme.quoteEnd?]
  | cons d after =>
      have apart : d ≠ quote := fun same => behind (by rw [same]; rfl)
      simp [Lexeme.quoteEnd?, apart]

/-- A character that means nothing inside of a literal. -/
theorem quoteEnd?_plain {quote c : Char} {escapes : Bool} {t : Text} (other : c ≠ quote)
    (unescaped : (escapes && c == '\\') = false) (filled : t ≠ []) :
    Lexeme.quoteEnd? quote escapes (c :: t) = (Lexeme.quoteEnd? quote escapes t).map (· + 1) := by
  cases t with
  | nil => exact absurd rfl filled
  | cons d after => simp [Lexeme.quoteEnd?, other, unescaped]

/-- Two quotes do not close a literal, unless nothing closes it behind them. -/
theorem quoteEnd?_pair (quote : Char) (escapes : Bool) (t : Text) :
    Lexeme.quoteEnd? quote escapes (quote :: quote :: t) =
      some (((Lexeme.quoteEnd? quote escapes t).map (· + 2)).getD 1) := by
  simp only [Lexeme.quoteEnd?, beq_self_eq_true, if_true]

/-- A backslash takes the character behind it along, but not the end of a line. -/
theorem quoteEnd?_escape {quote : Char} (solid : '\\' ≠ quote) (d : Char) (t : Text) :
    Lexeme.quoteEnd? quote true ('\\' :: d :: t) =
      if d = '\n' then none else (Lexeme.quoteEnd? quote true t).map (· + 2) := by
  simp only [Lexeme.quoteEnd?, beq_eq_false_iff_ne.mpr solid, Bool.false_eq_true, if_false,
    beq_self_eq_true, Bool.and_self, if_true, beq_iff_eq]

/-- The quote behind a text in which quotes are doubled closes it, unless a backslash goes with
it or with the end of a line. -/
theorem quoteEnd?_double {quote : Char} {escapes : Bool} {t rest : Text}
    (harmless : escapes = true -> Harmless [quote, '\n'] t) (behind : rest.head? ≠ some quote) :
    Lexeme.quoteEnd? quote escapes (Text.double quote t ++ quote :: rest) =
      some ((Text.double quote t).length + 1) := by
  -- a backslash is passed together with the character behind it, so the induction is on the length
  induction size : t.length using Nat.strong_induction_on generalizing t with
  | _ size ih =>
  subst size
  cases t with
  | nil => exact quoteEnd?_closing behind escapes
  | cons c more =>
      have later := ih more.length (by simp) (fun on => (harmless_cons_iff.mp (harmless on)).2) rfl
      rw [Text.double_cons]
      by_cases same : c = quote
      · subst same
        rw [if_pos rfl, List.append_assoc, List.cons_append, List.cons_append, List.nil_append,
          quoteEnd?_pair, later]
        rfl
      · by_cases escaped : escapes = true ∧ c = '\\'
        · rcases escaped with ⟨rfl, rfl⟩
          rcases (harmless_cons_iff.mp (harmless rfl)).1 rfl with ⟨d, others, rfl, outside⟩
          simp only [List.mem_cons, List.not_mem_nil, or_false, not_or] at outside
          have afterwards := ih others.length (by simp only [List.length_cons]; omega)
            (fun on => (harmless_cons_iff.mp (harmless_cons_iff.mp (harmless on)).2).2) rfl
          rw [if_neg same, Text.double_cons, if_neg outside.1]
          simp only [List.cons_append, List.nil_append]
          rw [quoteEnd?_escape same, if_neg outside.2, afterwards]
          rfl
        · have unescaped : (escapes && c == '\\') = false := by
            cases escapes with
            | false => rfl
            | true => exact beq_eq_false_iff_ne.mpr fun backslash => escaped ⟨rfl, backslash⟩
          rw [if_neg same, List.append_assoc, List.singleton_append,
            quoteEnd?_plain same unescaped (by simp), later]
          rfl

/-- So it does where backslashes are doubled as well, whatever the text is: no
backslash is left to go with it. -/
theorem quoteEnd?_double_double {quote : Char} (solid : quote ≠ '\\') {rest : Text}
    (behind : rest.head? ≠ some quote) (t : Text) :
    Lexeme.quoteEnd? quote true (Text.double quote (Text.double '\\' t) ++ quote :: rest) =
      some ((Text.double quote (Text.double '\\' t)).length + 1) := by
  induction t with
  | nil => exact quoteEnd?_closing behind true
  | cons c t ih =>
      rw [Text.double_cons]
      by_cases backslash : c = '\\'
      · have within : ('\\' : Char) ≠ '\n' := by decide
        simp only [if_pos backslash, List.cons_append, List.nil_append, Text.double_cons,
          if_neg solid.symm]
        rw [quoteEnd?_escape solid.symm, if_neg within, ih]
        rfl
      · by_cases same : c = quote
        · subst same
          simp only [if_neg backslash, List.cons_append, List.nil_append, Text.double_cons, if_true]
          rw [quoteEnd?_pair, ih]
          rfl
        · have unescaped : (true && c == '\\') = false := beq_eq_false_iff_ne.mpr backslash
          rw [if_neg backslash, List.singleton_append, Text.double_cons, if_neg same,
            List.append_assoc, List.singleton_append, quoteEnd?_plain same unescaped (by simp), ih]
          rfl

/-- A literal that its last quote closes is one token. -/
theorem lexeme_of_quoteEnd? {t : Text} (closed : forall rest, List.head? rest ≠ some '\'' ->
    Lexeme.quoteEnd? '\'' true (Text.double '\'' t ++ '\'' :: rest) =
      some ((Text.double '\'' t).length + 1)) :
    IsLexeme (Literal.single t) (.token .string) := by
  intro rest broken
  have behind := closed rest fun found => absurd (broken _ found) (by decide)
  have cut : Lexeme.cut '\'' ((Text.double '\'' t ++ ['\'']) ++ rest) =
      (.token .string, (Text.double '\'' t ++ ['\'']).length) := by
    have solid : Text.isBlank '\'' = false := by decide
    simp [Lexeme.cut, comment?_eq_none, solid, Lexeme.quotedPiece?, behind]
  exact ⟨'\'', Text.double '\'' t ++ ['\''], rfl, cut⟩

theorem lexeme_literal {t : Text} (plain : '\\' ∉ t) :
    IsLexeme (Literal.single t) (.token .string) :=
  lexeme_of_quoteEnd? fun _ => quoteEnd?_double fun _ => harmless_of_not_mem _ plain

theorem segment_escaped (t : Text) :
    Segment (Literal.single (Text.double '\\' t))
      [(.string, Literal.single (Text.double '\\' t))] :=
  (lexeme_of_quoteEnd? fun _ behind => quoteEnd?_double_double (by decide) behind t).segment

theorem segment_literal {t : Text} (plain : '\\' ∉ t) :
    Segment (Literal.single t) [(.string, Literal.single t)] :=
  (lexeme_literal plain).segment

theorem lexeme_backticked (t : Text) : IsLexeme (Name.backticked t) (.token .quotedIdentifier) := by
  intro rest broken
  have behind : rest.head? ≠ some '\x60' := fun found => absurd (broken _ found) (by decide)
  have closed := quoteEnd?_double (t := t) (fun on : false = true => nomatch on) behind
  have cut : Lexeme.cut '\x60' ((Text.double '\x60' t ++ ['\x60']) ++ rest) =
      (.token .quotedIdentifier, (Text.double '\x60' t ++ ['\x60']).length) := by
    have solid : Text.isBlank '\x60' = false := by decide
    simp [Lexeme.cut, comment?_eq_none, solid, Lexeme.quotedPiece?, closed]
  exact ⟨'\x60', Text.double '\x60' t ++ ['\x60'], rfl, cut⟩

theorem segment_backticked (t : Text) :
    Segment (Name.backticked t) [(.quotedIdentifier, Name.backticked t)] :=
  (lexeme_backticked t).segment

theorem lexeme_name {name : Text} (identifier : Name.IsIdentifier name) :
    IsLexeme ('\x60' :: name ++ ['\x60']) (.token .quotedIdentifier) := by
  have lexeme := lexeme_backticked name
  rwa [Name.backticked, Text.double_of_not_mem (identifier.not_mem (by decide))] at lexeme

theorem segment_name {name : Text} (identifier : Name.IsIdentifier name) :
    Segment ('\x60' :: name ++ ['\x60']) [(.quotedIdentifier, '\x60' :: name ++ ['\x60'])] :=
  (lexeme_name identifier).segment

/-! Segments put together. -/

/-- Two segments, of which the second begins with a break. -/
theorem Segment.append {first second : Text} {forms more : List Form}
    (segment : Segment first forms) (begins : Broken second) (further : Segment second more) :
    Segment (first ++ second) (forms ++ more) := by
  intro rest broken
  exact (segment (second ++ rest) (begins.append broken)).append (further rest broken)

theorem Segment.blank_cons {c : Char} (blank : Text.isBlank c = true) {t : Text} {forms : List Form}
    (segment : Segment t forms) : Segment (c :: t) forms :=
  fun rest broken => (reads_blank blank (t ++ rest)).append (segment rest broken)

/-- Segments joined by a separator that begins with a break. -/
theorem segment_join {items : List (Text × List Form)} {c : Char} {others : Text}
    {between : List Form} (listed : c ∈ breaks)
    (separates : forall rest, Reads (c :: others) between rest)
    (segments : forall item, item ∈ items -> Segment item.1 item.2) :
    Segment (Text.join (c :: others) (items.map Prod.fst))
      (between.intercalate (items.map Prod.snd)) := by
  induction items with
  | nil => exact fun rest _ => reads_nil rest
  | cons first items ih =>
      have here := segments first List.mem_cons_self
      have later := ih fun item member => segments item (List.mem_cons_of_mem first member)
      cases items with
      | nil => simpa [Text.join, List.intercalate] using here
      | cons second items =>
          intro rest broken
          simp only [List.map_cons] at later ⊢
          rw [Text.join_cons_cons, List.append_assoc, List.intercalate_cons_cons, List.append_assoc]
          exact (here _ (broken_cons listed _)).append ((separates _).append (later rest broken))

theorem nil_intercalate {α : Type} (lists : List (List α)) :
    [].intercalate lists = lists.flatten := by
  induction lists with
  | nil => rfl
  | cons first lists ih =>
      cases lists with
      | nil => simp
      | cons second lists =>
          rw [List.intercalate_cons_cons, List.append_nil, ih, List.flatten_cons (l := first)]

/-- Segments with a space between neighbours. -/
theorem segment_spaced {items : List (Text × List Form)}
    (segments : forall item, item ∈ items -> Segment item.1 item.2) :
    Segment (Text.join [' '] (items.map Prod.fst)) (items.map Prod.snd).flatten := by
  have joined := segment_join (by decide)
    (reads_blank (by decide : Text.isBlank ' ' = true)) segments
  rwa [nil_intercalate] at joined

/-- A segment in parentheses. -/
theorem segment_parens {t : Text} {forms : List Form} (segment : Segment t forms) :
    Segment ('(' :: t ++ [')']) ((.openParen, ['(']) :: forms ++ [(.closeParen, [')'])]) := by
  intro rest _
  have opening := reads_mark ('(', .openParen) (by decide) ((t ++ [')']) ++ rest)
  have inside := (segment ([')'] ++ rest) (broken_cons (by decide) _)).append
    (reads_mark (')', .closeParen) (by decide) rest)
  exact opening.append inside

end Token
end SchemaAtlas
