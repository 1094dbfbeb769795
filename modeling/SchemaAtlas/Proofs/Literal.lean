import SchemaAtlas.Literal
import SchemaAtlas.Proofs.Text

namespace SchemaAtlas
namespace Literal

/-!
What literals stand for.

The body of a literal is resolved in passes: pairs of quotes become single in the whole body before
backslashes are looked at.  A quote behind a backslash is therefore counted with the quotes that
follow it.  The pairs that follow are then made up of other quotes than they were written with, but
their number is the same, and so is what the body stands for: it could as well be read once from
left to right.
-/

/-! Backslashes. -/

theorem dropEscapes_cons_of_ne {c : Char} (other : c ≠ '\\') (t : Text) :
    dropEscapes (c :: t) = c :: dropEscapes t := by
  cases t with
  | nil => rfl
  | cons d rest => simp [dropEscapes, other]

theorem dropEscapes_double (t : Text) : dropEscapes (Text.double '\\' t) = t := by
  induction t with
  | nil => rfl
  | cons c rest ih =>
      rw [Text.double_cons]
      by_cases same : c = '\\'
      · simp [same, dropEscapes, ih]
      · rw [if_neg same, List.singleton_append, dropEscapes_cons_of_ne same, ih]

theorem length_dropEscapes_le (t : Text) : (dropEscapes t).length ≤ t.length := by
  fun_induction dropEscapes t with
  | case1 => simp
  | case2 c => simp
  | case3 c d rest taken ih =>
      simp only [List.length_cons]
      omega
  | case4 c d rest kept ih =>
      simp only [List.length_cons] at ih ⊢
      omega

/-- The characters that lose a backslash in front of them. -/
def escaped : List Char :=
  ['\\', '\'', '"']

theorem mem_escaped_iff (c : Char) : c ∈ escaped ↔ (isQuote c || c == '\\') = true := by
  simp [isQuote, escaped, or_comm]

/-- What a backslash and the character behind it stand for. -/
def pairMeaning (c : Char) : Text :=
  if c ∈ escaped then [c] else ['\\', c]

theorem dropEscapes_pair (c : Char) (t : Text) :
    dropEscapes ('\\' :: c :: t) = pairMeaning c ++ dropEscapes t := by
  unfold pairMeaning
  by_cases listed : c ∈ escaped
  · simp [dropEscapes, (mem_escaped_iff c).mp listed, listed]
  · have stays : (isQuote c || c == '\\') = false :=
      Bool.eq_false_iff.mpr fun same => listed ((mem_escaped_iff c).mpr same)
    have other : c ≠ '\\' := fun same => listed (same ▸ List.mem_cons_self)
    simp [dropEscapes, stays, listed, dropEscapes_cons_of_ne other]

/-- Backslashes stay where they do not stand in front of such a character. -/
theorem dropEscapes_eq_self_iff (t : Text) :
    dropEscapes t = t ↔ forall front d rest, t = front ++ '\\' :: d :: rest -> d ∉ escaped := by
  fun_induction dropEscapes t with
  | case1 => simp
  | case2 c =>
      refine iff_of_true rfl ?_
      intro front d rest split
      have size := congrArg List.length split
      simp only [List.length_append, List.length_cons, List.length_nil] at size
      omega
  | case3 c d rest taken ih =>
      rw [Bool.and_eq_true, beq_iff_eq, ← mem_escaped_iff] at taken
      refine iff_of_false ?_ ?_
      · intro equal
        have size := congrArg List.length equal
        have shorter := length_dropEscapes_le rest
        simp only [List.length_cons] at size
        omega
      · intro each
        exact each [] d rest (by rw [taken.1]; rfl) taken.2
  | case4 c d rest kept ih =>
      rw [Bool.and_eq_true, beq_iff_eq, ← mem_escaped_iff] at kept
      rw [List.cons.injEq, and_iff_right rfl, ih]
      constructor
      · intro each front e more split
        cases front with
        | nil =>
            simp only [List.nil_append, List.cons.injEq] at split
            rcases split with ⟨rfl, rfl, rfl⟩
            exact fun listed => kept ⟨rfl, listed⟩
        | cons x front => exact each front e more (List.cons.inj split).2
      · intro each front e more split
        exact each (c :: front) e more (by rw [split]; rfl)

/-! Quotes at both ends. -/

theorem enclosingQuote?_enclosed {quote : Char} (quotes : isQuote quote = true) (body : Text) :
    enclosingQuote? (quote :: body ++ [quote]) = some quote := by
  cases inside : body ++ [quote] with
  | nil => simp at inside
  | cons d rest =>
      have last : (d :: rest).getLastD d = quote := by
        rw [← inside]
        simp [List.getLastD_eq_getLast?]
      simp only [List.cons_append, inside, enclosingQuote?, quotes, last, Bool.true_and,
        beq_self_eq_true, if_true]

theorem withoutEnds_enclosed (opening closing : Char) (body : Text) :
    Name.withoutEnds (opening :: body ++ [closing]) = body := by
  simp [Name.withoutEnds]

theorem withoutEnds_inApostrophes (body : Text) :
    Name.withoutEnds (Text.inApostrophes body) = body :=
  withoutEnds_enclosed '\'' '\'' body

theorem unquote_enclosed {quote : Char} (quotes : isQuote quote = true) (body : Text) :
    unquote (quote :: body ++ [quote]) = decode body quote := by
  simp only [unquote, enclosingQuote?_enclosed quotes, withoutEnds_enclosed]

/-- Between single quotes, pairs of them are resolved first and backslashes last. -/
theorem decode_apostrophe (body : Text) :
    decode body '\'' = dropEscapes (Text.collapse '\'' body) := by
  have quote : ('\'' == '"') = false := by decide
  simp only [decode, quote, Bool.false_eq_true, if_false]

theorem unquote_inApostrophes (body : Text) :
    unquote (Text.inApostrophes body) = dropEscapes (Text.collapse '\'' body) :=
  (unquote_enclosed (by decide) body).trans (decode_apostrophe body)

theorem unquote_single_eq (t : Text) : unquote (single t) = dropEscapes t :=
  (unquote_inApostrophes (Text.double '\'' t)).trans
    (congrArg dropEscapes (Text.collapse_double '\'' t))

/-- Both passes of the reader together undo both doublings. -/
theorem decode_double_double (t : Text) :
    decode (Text.double '\'' (Text.double '\\' t)) '\'' = t := by
  rw [decode_apostrophe, Text.collapse_double, dropEscapes_double]

/-! Bodies of literals in single quotes. -/

/-- One sign of a body: a character that stands for itself, a quote that is written twice, or a
backslash with the character behind it. -/
inductive Sign where
  | plain (c : Char) (bare : c ≠ '\'' ∧ c ≠ '\\')
  | quote
  | pair (c : Char)

def Sign.written : Sign -> Text
  | .plain c _ => [c]
  | .quote => ['\'', '\'']
  | .pair c => ['\\', c]

def Sign.meaning : Sign -> Text
  | .plain c _ => [c]
  | .quote => ['\'']
  | .pair c => pairMeaning c

def body (signs : List Sign) : Text :=
  signs.flatMap Sign.written

/-- A body is read once from left to right: of two single quotes one is kept, a backslash
disappears in front of a quote of either kind and in front of a backslash, and everything else
stays. -/
def decodeOnce : Text -> Text
  | [] => []
  | [c] => [c]
  | c :: d :: rest =>
    if c == '\'' && d == '\'' then '\'' :: decodeOnce rest
    else if c == '\\' then
      if isQuote d || d == '\\' then d :: decodeOnce rest else '\\' :: d :: decodeOnce rest
    else c :: decodeOnce (d :: rest)

theorem decodeOnce_cons_of_bare {c : Char} (bare : c ≠ '\'' ∧ c ≠ '\\') (t : Text) :
    decodeOnce (c :: t) = c :: decodeOnce t := by
  cases t with
  | nil => rfl
  | cons d rest => simp [decodeOnce, bare]

theorem decodeOnce_pair (c : Char) (t : Text) :
    decodeOnce ('\\' :: c :: t) = pairMeaning c ++ decodeOnce t := by
  have noQuote : ('\\' == '\'') = false := by decide
  rw [decodeOnce, noQuote, Bool.false_and, if_neg Bool.false_ne_true, if_pos (beq_self_eq_true _),
    pairMeaning]
  by_cases listed : c ∈ escaped
  · rw [if_pos ((mem_escaped_iff c).mp listed), if_pos listed]
    rfl
  · rw [if_neg fun same => listed ((mem_escaped_iff c).mpr same), if_neg listed]
    rfl

theorem decodeOnce_body_cons (sign : Sign) (signs : List Sign) :
    decodeOnce (body (sign :: signs)) = sign.meaning ++ decodeOnce (body signs) := by
  cases sign with
  | plain c bare => exact decodeOnce_cons_of_bare bare (body signs)
  | quote => rfl
  | pair c => exact decodeOnce_pair c (body signs)

/-- A quote in front of a body stays as it is: its pairs move by one place and
there are as many of them. -/
theorem collapse_quote_body (signs : List Sign) :
    Text.collapse '\'' ('\'' :: body signs) = '\'' :: Text.collapse '\'' (body signs) := by
  induction signs with
  | nil => rfl
  | cons sign signs ih =>
      cases sign with
      | plain c bare =>
          have begins : (c :: body signs).head? ≠ some '\'' :=
            fun same => bare.1 (Option.some.inj same)
          exact Text.collapse_cons_of_head begins '\''
      | quote =>
          change Text.collapse '\'' ('\'' :: '\'' :: '\'' :: body signs) =
            '\'' :: Text.collapse '\'' ('\'' :: '\'' :: body signs)
          rw [Text.collapse_pair, Text.collapse_pair, ih]
      | pair c =>
          have begins : ('\\' :: c :: body signs).head? ≠ some '\'' :=
            fun same => absurd (Option.some.inj same) (by decide)
          exact Text.collapse_cons_of_head begins '\''

theorem decode_body_cons (sign : Sign) (signs : List Sign) :
    decode (body (sign :: signs)) '\'' = sign.meaning ++ decode (body signs) '\'' := by
  rw [decode_apostrophe, decode_apostrophe]
  cases sign with
  | plain c bare =>
      change dropEscapes (Text.collapse '\'' (c :: body signs)) =
        c :: dropEscapes (Text.collapse '\'' (body signs))
      rw [Text.collapse_cons_of_ne bare.1, dropEscapes_cons_of_ne bare.2]
  | quote =>
      change dropEscapes (Text.collapse '\'' ('\'' :: '\'' :: body signs)) =
        '\'' :: dropEscapes (Text.collapse '\'' (body signs))
      rw [Text.collapse_pair, dropEscapes_cons_of_ne (by decide)]
  | pair c =>
      have behind : Text.collapse '\'' (c :: body signs) =
          c :: Text.collapse '\'' (body signs) := by
        by_cases quoted : c = '\''
        · rw [quoted, collapse_quote_body]
        · exact Text.collapse_cons_of_ne quoted (body signs)
      change dropEscapes (Text.collapse '\'' ('\\' :: c :: body signs)) =
        pairMeaning c ++ dropEscapes (Text.collapse '\'' (body signs))
      rw [Text.collapse_cons_of_ne (by decide), behind, dropEscapes_pair]

/-- The passes of the reader, one after the other, find in every body what is found from left to
right: the meanings of its signs, one by one. -/
theorem decode_body (signs : List Sign) :
    decode (body signs) '\'' = decodeOnce (body signs) ∧
      decodeOnce (body signs) = signs.flatMap Sign.meaning := by
  induction signs with
  | nil => exact ⟨rfl, rfl⟩
  | cons sign signs ih =>
      rw [decode_body_cons, decodeOnce_body_cons, List.flatMap_cons, ih.1, ih.2]
      exact ⟨rfl, rfl⟩

/-- A backslash and five quotes: the first quote goes with the backslash, though the pairs
are counted from it on. -/
example :
    decode ['\\', '\'', '\'', '\'', '\'', '\'', 'n'] '\'' = ['\'', '\'', '\'', 'n'] := by decide

/-! Literals in double quotes. -/

/-- A text in double quotes, where every backslash and every double quote is written twice. -/
def doubleQuoted (t : Text) : Text :=
  '"' :: Text.double '"' (Text.double '\\' t) ++ ['"']

/-- Single quotes are resolved here as well, and nobody has written them twice. -/
theorem decode_doubleQuoted (t : Text) :
    decode (Text.double '"' (Text.double '\\' t)) '"' = Text.collapse '\'' t := by
  simp only [decode, beq_self_eq_true, if_true]
  rw [Text.collapse_double_of_ne (q := '\'') (by decide), Text.collapse_double,
    Text.collapse_double_of_ne (by decide), dropEscapes_double]

end Literal
end SchemaAtlas
