import SchemaAtlas.Ddl
import SchemaAtlas.Proofs.Insert.Cell
import SchemaAtlas.Proofs.Token.Reads

namespace SchemaAtlas

/-!
Quoted names and literals, read again.

A name in backticks is written as it is, and a literal doubles its single quotes and nothing else.
Both are read by rules that know more: a doubled backtick goes on with a name, and a backslash takes
the character behind it along.  So not every text comes back.  The statements below say exactly
which texts do.
-/

namespace Text

/-- What a beginning of a doubled text collapses to is a beginning of the text.  Where it is the
whole text, one character at most is missing, the second one of a pair at the end. -/
theorem collapse_of_isPrefix {q : Char} {t body : Text} (front : body <+: double q t) :
    collapse q body <+: t ∧ (collapse q body = t -> (double q t).length ≤ body.length + 1) := by
  induction t generalizing body with
  | nil =>
      obtain rfl : body = [] := List.prefix_nil.mp front
      simp [collapse, double]
  | cons c rest ih =>
      rw [double_cons] at front ⊢
      cases body with
      | nil => simp [collapse]
      | cons d body =>
          by_cases same : c = q
          · rw [if_pos same, List.cons_append] at front ⊢
            rcases List.cons_prefix_cons.mp front with ⟨rfl, behind⟩
            cases body with
            | nil =>
                simp only [collapse, same, List.cons_prefix_cons, List.nil_prefix, and_self,
                  List.cons.injEq, true_and]
                rintro rfl
                simp [double]
            | cons e body =>
                rcases List.cons_prefix_cons.mp behind with ⟨rfl, later⟩
                simpa [collapse, same] using ih later
          · rw [if_neg same, List.singleton_append] at front ⊢
            rcases List.cons_prefix_cons.mp front with ⟨rfl, later⟩
            simpa [collapse_cons_of_ne same] using ih later

end Text

namespace Literal

open Token

/-- What holds of the backslashes of a text holds of those of its end. -/
theorem dropEscapes_eq_self_of_append (front : Text) {t : Text}
    (standing : dropEscapes (front ++ t) = front ++ t) : dropEscapes t = t := by
  apply (dropEscapes_eq_self_iff t).mpr
  rintro before d rest rfl
  exact (dropEscapes_eq_self_iff _).mp standing (front ++ before) d rest
    (List.append_assoc _ _ _).symm

/-- The characters in front of which a backslash changes how a literal is read. -/
def special : List Char :=
  '\n' :: escaped

theorem dropEscapes_of_harmless {t : Text} (harmless : Harmless special t) : dropEscapes t = t := by
  apply (dropEscapes_eq_self_iff t).mpr
  intro front d rest split
  rcases harmless front (d :: rest) split with ⟨e, more, same, outside⟩
  rcases List.cons.inj same with ⟨rfl, _⟩
  exact fun listed => outside (List.mem_cons_of_mem '\n' listed)

/-- A harmful backslash stands behind any other character. -/
theorem not_harmless_of_cons {c : Char} {t : Text} (harmful : ¬ Harmless special (c :: t))
    (other : c ≠ '\\') : ¬ Harmless special t :=
  fun harmless => harmful (harmless_cons_iff.mpr ⟨fun same => absurd same other, harmless⟩)

/-- A harmful backslash stands behind one that means nothing, and behind the
character after that. -/
theorem not_harmless_of_escape {d : Char} {t : Text} (harmful : ¬ Harmless special ('\\' :: d :: t))
    (outside : d ∉ special) : ¬ Harmless special t := by
  have other : d ≠ '\\' := by
    rintro rfl
    exact outside (by decide)
  intro harmless
  apply harmful
  apply harmless_cons_iff.mpr
  exact ⟨fun _ => ⟨d, t, rfl, outside⟩,
    harmless_cons_iff.mpr ⟨fun same => absurd same other, harmless⟩⟩

/-- A backslash at the end or in front of a line end keeps a literal from being
closed where it should be. -/
theorem lt_of_quoteEnd?_double {t : Text} (standing : dropEscapes t = t)
    (harmful : ¬ Harmless special t)
    {n : Nat} (closed : Lexeme.quoteEnd? '\'' true (Text.double '\'' t ++ ['\'', ' ']) = some n) :
    n < (Text.double '\'' t).length := by
  induction size : t.length using Nat.strong_induction_on generalizing t n with
  | _ size ih =>
  subst size
  cases t with
  | nil => exact absurd (harmless_of_not_mem special (by simp)) harmful
  | cons c rest =>
      have standingRest : dropEscapes rest = rest := dropEscapes_eq_self_of_append [c] standing
      rw [Text.double_cons] at closed ⊢
      by_cases quote : c = '\''
      · subst quote
        have harmfulRest := not_harmless_of_cons harmful (by decide)
        simp only [if_true, List.cons_append, List.nil_append, List.length_cons] at closed ⊢
        rw [quoteEnd?_pair, Option.some.injEq] at closed
        cases later : Lexeme.quoteEnd? '\'' true (Text.double '\'' rest ++ ['\'', ' ']) with
        | none =>
            simp only [later, Option.map_none, Option.getD_none] at closed
            omega
        | some m =>
            have further := ih rest.length (by simp) standingRest harmfulRest later rfl
            simp only [later, Option.map_some, Option.getD_some] at closed
            omega
      · rw [if_neg quote, List.singleton_append] at closed ⊢
        rw [List.length_cons]
        by_cases backslash : c = '\\'
        · subst backslash
          cases rest with
          | nil => simp [Text.double, Lexeme.quoteEnd?] at closed
          | cons d more =>
              have within := (dropEscapes_eq_self_iff _).mp standing [] d more rfl
              have noQuote : d ≠ '\'' := by
                rintro rfl
                exact within (by decide)
              simp only [Text.double_cons, if_neg noQuote, List.cons_append, List.nil_append,
                List.length_cons] at closed ⊢
              rw [quoteEnd?_escape quote] at closed
              split at closed
              · cases closed
              · rename_i feed
                have harmfulMore :=
                  not_harmless_of_escape harmful (List.not_mem_cons_of_ne_of_not_mem feed within)
                have standingMore : dropEscapes more = more :=
                  dropEscapes_eq_self_of_append [d] standingRest
                rcases Option.map_eq_some_iff.mp closed with ⟨m, found, rfl⟩
                have further :=
                  ih more.length (by simp only [List.length_cons]; omega) standingMore harmfulMore
                    found rfl
                omega
        · have unescaped : (true && c == '\\') = false := beq_eq_false_iff_ne.mpr backslash
          rw [List.cons_append, quoteEnd?_plain quote unescaped (by simp)] at closed
          rcases Option.map_eq_some_iff.mp closed with ⟨m, found, rfl⟩
          have further := ih rest.length (by simp) standingRest
            (not_harmless_of_cons harmful backslash) found rfl
          omega

end Literal

namespace Token

/-- The quote that closes a literal or a name stands in the text. -/
theorem exists_of_quoteEnd? {quote : Char} {escapes : Bool} {t : Text} {n : Nat}
    (closed : Lexeme.quoteEnd? quote escapes t = some n) :
    exists body rest, t = body ++ quote :: rest ∧ n = body.length + 1 := by
  fun_induction Lexeme.quoteEnd? quote escapes t generalizing n with
  | case1 => cases closed
  | case2 c same =>
      obtain rfl : 1 = n := Option.some.inj closed
      exact ⟨[], [], by rw [beq_iff_eq.mp same]; rfl, rfl⟩
  | case3 c other => cases closed
  | case4 c d rest same pair ih =>
      obtain rfl : c = quote := beq_iff_eq.mp same
      obtain rfl : d = c := beq_iff_eq.mp pair
      cases later : Lexeme.quoteEnd? d escapes rest with
      | none =>
          rw [later] at closed
          obtain rfl : 1 = n := Option.some.inj closed
          exact ⟨[], d :: rest, rfl, rfl⟩
      | some m =>
          rw [later] at closed
          obtain rfl : m + 2 = n := Option.some.inj closed
          rcases ih later with ⟨body, after, rfl, rfl⟩
          exact ⟨d :: d :: body, after, rfl, rfl⟩
  | case5 c d rest same other =>
      obtain rfl : 1 = n := Option.some.inj closed
      exact ⟨[], d :: rest, by rw [beq_iff_eq.mp same]; rfl, rfl⟩
  | case6 c d rest other taken feed => cases closed
  | case7 c d rest other taken noFeed ih =>
      rcases Option.map_eq_some_iff.mp closed with ⟨m, later, rfl⟩
      rcases ih later with ⟨body, after, rfl, rfl⟩
      exact ⟨c :: d :: body, after, rfl, rfl⟩
  | case8 c d rest other plain ih =>
      rcases Option.map_eq_some_iff.mp closed with ⟨m, later, rfl⟩
      rcases ih later with ⟨body, after, split, rfl⟩
      exact ⟨c :: body, after, by rw [split]; rfl, rfl⟩

/-- The quotes of MySQL: whether backslashes count between them, and the kind of
token that they make. -/
def mysqlQuotes : List (Char × Bool × TokenKind) :=
  [('\'', true, .string), ('\x60', false, .quotedIdentifier)]

/-- A quote begins a token that goes up to the closing one, and is a token by
itself where none closes. -/
theorem cut_quote {q : Char} {escapes : Bool} {kind : TokenKind}
    (listed : (q, escapes, kind) ∈ mysqlQuotes) (rest : Text) :
    Lexeme.cut q rest = match Lexeme.quoteEnd? q escapes rest with
      | some n => (.token kind, n)
      | none => (.token .operator, Lexeme.operatorLength q rest) := by
  have facts : forall entry : Char × Bool × TokenKind, entry ∈ mysqlQuotes ->
      Text.isBlank entry.1 = false ∧ Text.isDecimalDigit entry.1 = false ∧ entry.1 ≠ '.' ∧
        entry.1 ≠ '-' ∧
        entry.1 ≠ '/' ∧ Lexeme.punctuation? entry.1 = none ∧ Lexeme.isBareChar entry.1 = false := by
    decide
  rcases facts _ listed with ⟨solid, noDigit, noPoint, noLine, noBlock, unmarked, bare⟩
  have piece : Lexeme.quotedPiece? q rest = (Lexeme.quoteEnd? q escapes rest).map fun n =>
      (kind, n) := by
    simp only [mysqlQuotes, List.mem_cons, Prod.mk.injEq, List.not_mem_nil, or_false] at listed
    rcases listed with ⟨rfl, rfl, rfl⟩ | ⟨rfl, rfl, rfl⟩
    · rfl
    · rfl
  cases closed : Lexeme.quoteEnd? q escapes rest with
  | some n => simp [Lexeme.cut, comment?_eq_none noLine noBlock, solid, piece, closed]
  | none =>
      simp [Lexeme.cut, comment?_eq_none noLine noBlock, solid, piece, closed,
        number?_eq_none noDigit noPoint, unmarked, bare]

/-- A text that is followed by a space is one token of a kind, and the token
means the given text. -/
def ReadsBack (kind : TokenKind) (meaning : Text -> Text) (t v : Text) : Prop :=
  exists token ending, scan (t ++ [' ']) .keep = [token, ending] ∧ ending.kind = .endOfText ∧
    token.kind = kind ∧
    meaning token.value = v

section Quoted

variable {q : Char} {escapes : Bool} {kind : TokenKind} {meaning : Text -> Text} {t v : Text}

/-- A quoted text that is read back is closed by some quote, and what stands in front of
that quote means the text. -/
theorem ReadsBack.closed (listed : (q, escapes, kind) ∈ mysqlQuotes)
    (back : ReadsBack kind meaning (q :: t ++ [q]) v) :
    exists body rest, t ++ [q, ' '] = body ++ q :: rest ∧
      Lexeme.quoteEnd? q escapes (t ++ [q, ' ']) = some (body.length + 1) ∧
        meaning (q :: body ++ [q]) = v := by
  rcases back with ⟨token, ending, scanned, _, kinded, means⟩
  have text : q :: t ++ [q] ++ [' '] = q :: (t ++ [q, ' ']) := by simp
  rw [text, scan, scanFrom, cut_quote listed] at scanned
  cases found : Lexeme.quoteEnd? q escapes (t ++ [q, ' ']) with
  | none =>
      simp only [found, ofLexeme?, Option.toList_some, List.singleton_append,
        List.cons.injEq] at scanned
      have quoted : kind ≠ .operator := by
        have facts : forall entry : Char × Bool × TokenKind,
          entry ∈ mysqlQuotes -> entry.2.2 ≠ .operator := by decide
        exact facts _ listed
      rw [← kinded, ← scanned.1] at quoted
      exact absurd rfl quoted
  | some n =>
      rcases exists_of_quoteEnd? found with ⟨body, rest, split, rfl⟩
      refine ⟨body, rest, split, rfl, ?_⟩
      simp only [found, ofLexeme?, Option.toList_some, List.singleton_append, List.cons.injEq,
        shown] at scanned
      have taken : (t ++ [q, ' ']).take (body.length + 1) = body ++ [q] := by
        rw [split, List.append_cons]
        exact List.take_left' (by simp)
      rw [← scanned.1, taken] at means
      exact means

/-- A quoted text that is closed by its last quote is read back as what it means. -/
theorem readsBack_of_quoteEnd? (listed : (q, escapes, kind) ∈ mysqlQuotes)
    (closed : Lexeme.quoteEnd? q escapes (t ++ [q, ' ']) = some (t.length + 1))
    (means : meaning (q :: t ++ [q]) = v) : ReadsBack kind meaning (q :: t ++ [q]) v := by
  have cut : Lexeme.cut q ((t ++ [q]) ++ [' ']) = (.token kind, (t ++ [q]).length) := by
    rw [cut_quote listed, List.append_assoc]
    simp only [List.singleton_append, closed, List.length_append, List.length_singleton]
  rcases reads_of_cut cut Place.start with ⟨tokens, formed, scanned⟩
  rcases List.map_eq_singleton_iff.mp formed with ⟨token, rfl, formedToken⟩
  refine ⟨token, ⟨.endOfText, [], (Place.start.after (q :: (t ++ [q]))).after [' ']⟩, ?_, rfl,
    kind_of_form formedToken, ?_⟩
  · have blank : Text.isBlank ' ' = true := by decide
    rw [scan, List.cons_append, scanned, scanFrom_of_blank blank]
    simp [scanFrom, Place.after]
  · rw [value_of_form formedToken]
    exact means

end Quoted

/-- Backticks close a name at its end only where they stand in pairs inside. -/
theorem exists_double_of_quoteEnd? {v : Text}
    (closed : Lexeme.quoteEnd? '\x60' false (v ++ ['\x60', ' ']) = some (v.length + 1)) :
    exists u, v = Text.double '\x60' u := by
  induction size : v.length using Nat.strong_induction_on generalizing v with
  | _ size ih =>
  subst size
  cases v with
  | nil => exact ⟨[], rfl⟩
  | cons c rest =>
      by_cases quote : c = '\x60'
      · subst quote
        cases rest with
        | nil => simp [Lexeme.quoteEnd?] at closed
        | cons d more =>
            by_cases pair : d = '\x60'
            · subst pair
              rw [List.cons_append, List.cons_append, quoteEnd?_pair, Option.some.injEq] at closed
              cases later : Lexeme.quoteEnd? '\x60' false (more ++ ['\x60', ' ']) with
              | none => simp [later] at closed
              | some m =>
                  obtain rfl : m = more.length + 1 := by simpa [later] using closed
                  rcases ih more.length (by simp only [List.length_cons]; omega) later rfl with
                    ⟨u, rfl⟩
                  exact ⟨'\x60' :: u, by simp [Text.double_cons]⟩
            · rw [List.cons_append, quoteEnd?_closing (by simpa using pair)] at closed
              simp at closed
      · rw [List.cons_append, quoteEnd?_plain quote rfl (by simp)] at closed
        rcases Option.map_eq_some_iff.mp closed with ⟨m, later, same⟩
        obtain rfl : m = rest.length + 1 := Nat.succ.inj same
        rcases ih rest.length (by simp) later rfl with ⟨u, rfl⟩
        exact ⟨c :: u, by simp [Text.double_cons, quote]⟩

/-- A text in backticks is read back where its own backticks stand in pairs, and nowhere else. -/
theorem readsBack_backticks_iff (v : Text) :
    ReadsBack .quotedIdentifier Name.stripQuotes ('\x60' :: v ++ ['\x60']) v ↔
      exists u, v = Text.double '\x60' u := by
  have listed : ('\x60', false, TokenKind.quotedIdentifier) ∈ mysqlQuotes := by decide
  constructor
  · intro back
    rcases back.closed listed with ⟨body, rest, _, closed, means⟩
    rw [Name.stripQuotes_backticks] at means
    subst means
    exact exists_double_of_quoteEnd? closed
  · rintro ⟨u, rfl⟩
    apply readsBack_of_quoteEnd? listed
    · exact quoteEnd?_double (fun on => nomatch on) (by decide)
    · exact Name.stripQuotes_backticks _

/-- A literal in single quotes is read back where every backslash is harmless, and nowhere else. -/
theorem readsBack_single_iff (v : Text) :
    ReadsBack .string Literal.unquote (Literal.single v) v ↔ Harmless Literal.special v := by
  have listed : ('\'', true, TokenKind.string) ∈ mysqlQuotes := by decide
  constructor
  · intro back
    rcases back.closed listed with ⟨body, rest, split, closed, means⟩
    have front : body <+: Text.double '\'' v := by
      have size := congrArg List.length split
      have filled : rest ≠ [] := by
        rintro rfl
        have last := congrArg List.getLast? split
        simp at last
      have some := List.length_pos_iff.mpr filled
      simp only [List.length_append, List.length_cons, List.length_nil] at size
      exact List.prefix_of_prefix_length_le ⟨'\'' :: rest, split.symm⟩ (List.prefix_append _ _)
        (by omega)
    rcases Text.collapse_of_isPrefix front with ⟨begins, length⟩
    have decoded : Literal.dropEscapes (Text.collapse '\'' body) = v :=
      (Literal.unquote_inApostrophes body).symm.trans means
    have whole : Text.collapse '\'' body = v := by
      apply begins.eq_of_length_le
      rw [← decoded]
      exact Literal.length_dropEscapes_le _
    by_contra harmful
    rw [whole] at decoded
    have early := Literal.lt_of_quoteEnd?_double decoded harmful closed
    have late := length whole
    omega
  · intro harmless
    apply readsBack_of_quoteEnd? listed
    · exact quoteEnd?_double (fun _ => harmless.mono (by simp [Literal.special, Literal.escaped]))
        (by decide)
    · exact (Literal.unquote_single_eq v).trans (Literal.dropEscapes_of_harmless harmless)

end Token

namespace Dialect

open Token

/-- What MySQL quotes and what is read back.  Names come back exactly where their backticks stand
in pairs, as none are written for them; literals and comments exactly where every backslash
stands in front of a character other than a backslash, a quote or a line end. -/
theorem quoted_readsBack_iff (v : Text) :
    (ReadsBack .quotedIdentifier Name.stripQuotes (quoteColumn .mysql v) v ↔
      exists u, v = Text.double '\x60' u) ∧
      (ReadsBack .quotedIdentifier Name.stripQuotes (quoteTable .mysql v) v ↔
        exists u, v = Text.double '\x60' u) ∧
      (ReadsBack .string Literal.unquote (literalList [v]) v ↔ Harmless Literal.special v) ∧
      (ReadsBack .string Literal.unquote (Text.inApostrophes (escapeComment v)) v ↔
        Harmless Literal.special v) := by
  have list : literalList [v] = Literal.single v := Text.join_singleton [','] (Literal.single v)
  refine ⟨readsBack_backticks_iff v, readsBack_backticks_iff v, ?_, readsBack_single_iff v⟩
  rw [list]
  exact readsBack_single_iff v

end Dialect
end SchemaAtlas
