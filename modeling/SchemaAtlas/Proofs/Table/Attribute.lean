import SchemaAtlas.Proofs.Token.Span
import SchemaAtlas.Table.Element

namespace SchemaAtlas
namespace Table

open Token

/-!
What one token says of a column.

The attributes of a column are read token by token.  A token begins an attribute, together with some
of the tokens behind it, or it is passed over, an opening parenthesis with everything up to the one
that closes it.  Nothing else happens.  So how a spelling is read, and what all attributes have in
common, is seen from these cases, and the reading itself is opened only here.
-/

/-- What one token adds to the attributes, together with those behind it that belong to
it, and the tokens behind. -/
def attributeStep (body name : Text) (a : Attributes) (t : Token) (rest : List Token) :
    Attributes × List Token :=
  let word := t.word
  if word == "NOT".toList && nextWord rest == "NULL".toList then
    ({ a with nullable := false }, rest.drop 1)
  else if word == "PRIMARY".toList && nextWord rest ==
    "KEY".toList then ({ a with inlineKey := true }, rest.drop 1)
  else if countsItself.contains word then ({ a with autoIncrement := true }, skipParens rest)
  else if word == "DEFAULT".toList then
    let size := defaultLength 0 true rest
    let default := spannedText? body (rest.take size)
    ({ a with default := default, autoIncrement := a.autoIncrement || drawsNumbers default },
      rest.drop size)
  else if word == "COMMENT".toList && (rest.head?.map Token.kind) == some .string then
    ({ a with comment := rest.head?.map fun s => Text.trim (Literal.unquote s.value) }, rest.drop 1)
  else if word == "REFERENCES".toList then
    ({ a with references := a.references ++ (reference? [name] rest).toList }, rest)
  else if t.kind == .openParen then (a, afterParens rest)
  else (a, rest)

@[simp]
theorem readAttributes_nil (body name : Text) (a : Attributes) :
    readAttributes body name a [] = a := by
  rw [readAttributes]

theorem readAttributes_cons (body name : Text) (a : Attributes) (t : Token) (rest : List Token) :
    readAttributes body name a (t :: rest) =
      readAttributes body name (attributeStep body name a t rest).1
        (attributeStep body name a t rest).2 := by
  rw [readAttributes]
  simp only [attributeStep]
  repeat' split
  all_goals rfl

/-- No attribute begins at a token.  The words `NOT`, `PRIMARY` and `COMMENT`
begin none by themselves. -/
structure BeginsNothing (t : Token) (rest : List Token) : Prop where
  notNull : ¬(t.word = "NOT".toList ∧ nextWord rest = "NULL".toList)
  noKey : ¬(t.word = "PRIMARY".toList ∧ nextWord rest = "KEY".toList)
  noCounting : t.word ∉ countsItself
  noDefault : t.word ≠ "DEFAULT".toList
  noRemark : ¬(t.word = "COMMENT".toList ∧ rest.head?.map Token.kind = some .string)
  noReference : t.word ≠ "REFERENCES".toList

/-- What a token and those behind it make of the attributes, and the tokens that are left. -/
inductive AttributeRead (body name : Text) (a : Attributes) (t : Token) :
    List Token -> Attributes -> List Token -> Prop
  | required {u : Token} {rest : List Token} (word : t.word = "NOT".toList)
      (next : u.word = "NULL".toList) :
      AttributeRead body name a t (u :: rest) { a with nullable := false } rest
  | key {u : Token} {rest : List Token} (word : t.word = "PRIMARY".toList)
      (next : u.word = "KEY".toList) :
      AttributeRead body name a t (u :: rest) { a with inlineKey := true } rest
  | counting {rest : List Token} (word : t.word ∈ countsItself) :
      AttributeRead body name a t rest { a with autoIncrement := true } (skipParens rest)
  | preset {value rest : List Token} (word : t.word = "DEFAULT".toList)
      (size : defaultLength 0 true (value ++ rest) = value.length) :
      AttributeRead body name a t (value ++ rest)
        { a with
          default := spannedText? body value
          autoIncrement := a.autoIncrement || drawsNumbers (spannedText? body value) }
        rest
  | remark {u : Token} {rest : List Token} (word : t.word = "COMMENT".toList)
      (literal : u.kind = .string) :
      AttributeRead body name a t (u :: rest)
        { a with comment := some (Text.trim (Literal.unquote u.value)) } rest
  | reference {rest : List Token} (word : t.word = "REFERENCES".toList) :
      AttributeRead body name a t rest
        { a with references := a.references ++ (reference? [name] rest).toList } rest
  | group {rest : List Token} (plain : BeginsNothing t rest) (opens : t.kind = .openParen) :
      AttributeRead body name a t rest a (afterParens rest)
  | passed {rest : List Token} (plain : BeginsNothing t rest) (unopened : t.kind ≠ .openParen) :
      AttributeRead body name a t rest a rest

theorem exists_of_nextWord {tokens : List Token} {word : Text} (next : nextWord tokens = word)
    (filled : word ≠ []) : exists u rest, tokens = u :: rest ∧ u.word = word := by
  cases tokens with
  | nil => exact absurd next.symm filled
  | cons u rest => exact ⟨u, rest, rfl, next⟩

theorem defaultLength_le (depth : Int) (isFirst : Bool) (tokens : List Token) :
    defaultLength depth isFirst tokens ≤ tokens.length := by
  induction tokens generalizing depth isFirst with
  | nil => exact Nat.le_refl 0
  | cons t rest ih =>
      have behind := ih (depth + nesting t) false
      rw [defaultLength, List.length_cons]
      split
      · exact Nat.zero_le _
      · omega

/-- The value of a default is as long as its tokens say. -/
theorem AttributeRead.default (body name : Text) (a : Attributes) {t : Token}
    (word : t.word = "DEFAULT".toList) (rest : List Token) :
    AttributeRead body name a t rest
      { a with
        default := spannedText? body (rest.take (defaultLength 0 true rest))
        autoIncrement :=
          a.autoIncrement || drawsNumbers
            (spannedText? body (rest.take (defaultLength 0 true rest))) }
      (rest.drop (defaultLength 0 true rest)) := by
  have parts := List.take_append_drop (defaultLength 0 true rest) rest
  have size : defaultLength 0 true
      (rest.take (defaultLength 0 true rest) ++ rest.drop (defaultLength 0 true rest)) =
      (rest.take (defaultLength 0 true rest)).length := by
    rw [parts, List.length_take, Nat.min_eq_left (defaultLength_le 0 true rest)]
  have read : AttributeRead body name a t
      (rest.take (defaultLength 0 true rest) ++ rest.drop (defaultLength 0 true rest))
      _ _ := .preset word size
  rwa [parts] at read

/-- Each token is read in one of these ways. -/
theorem attributeRead_attributeStep (body name : Text) (a : Attributes) (t : Token)
    (rest : List Token) :
    AttributeRead body name a t rest (attributeStep body name a t rest).1
      (attributeStep body name a t rest).2 := by
  simp only [attributeStep]
  split
  · rename_i isNot
    rw [Bool.and_eq_true, beq_iff_eq, beq_iff_eq] at isNot
    rcases exists_of_nextWord isNot.2 (by decide) with ⟨u, behind, rfl, next⟩
    exact .required isNot.1 next
  rename_i noNot
  split
  · rename_i isKey
    rw [Bool.and_eq_true, beq_iff_eq, beq_iff_eq] at isKey
    rcases exists_of_nextWord isKey.2 (by decide) with ⟨u, behind, rfl, next⟩
    exact .key isKey.1 next
  rename_i noKey
  split
  · rename_i counts
    exact .counting (List.contains_iff_mem.mp counts)
  rename_i noCounting
  split
  · rename_i isDefault
    exact .default body name a (beq_iff_eq.mp isDefault) rest
  rename_i noDefault
  split
  · rename_i remarks
    rw [Bool.and_eq_true, beq_iff_eq, beq_iff_eq] at remarks
    cases rest with
    | nil => cases remarks.2
    | cons u behind => exact .remark remarks.1 (Option.some.inj remarks.2)
  rename_i noRemark
  split
  · rename_i refers
    exact .reference (beq_iff_eq.mp refers)
  rename_i noReference
  have plain : BeginsNothing t rest := by
    simp only [Bool.and_eq_true, beq_iff_eq, List.contains_iff_mem]
      at noNot noKey noCounting noDefault noRemark noReference
    exact ⟨noNot, noKey, noCounting, noDefault, noRemark, noReference⟩
  split
  · rename_i opens
    exact .group plain (beq_iff_eq.mp opens)
  · rename_i unopened
    exact .passed plain (fun opens => unopened (beq_iff_eq.mpr opens))

theorem BeginsNothing.attributeStep_eq {t : Token} {rest : List Token}
    (plain : BeginsNothing t rest) (body name : Text) (a : Attributes) :
    attributeStep body name a t rest =
      (a, if t.kind == .openParen then afterParens rest else rest) := by
  rcases plain with ⟨notNull, noKey, noCounting, noDefault, noRemark, noReference⟩
  rw [attributeStep]
  simp only [Bool.and_eq_true, beq_iff_eq, List.contains_iff_mem]
  rw [if_neg notNull, if_neg noKey, if_neg noCounting, if_neg noDefault, if_neg noRemark,
    if_neg noReference]
  split
  · rfl
  · rfl

namespace AttributeRead

variable {body name : Text} {a a' : Attributes} {t : Token} {rest next : List Token}

/-- No token is read in two ways. -/
theorem attributeStep_eq (read : AttributeRead body name a t rest a' next) :
    attributeStep body name a t rest = (a', next) := by
  cases read with
  | required word second => simp [attributeStep, word, nextWord, second]
  | key word second => simp [attributeStep, word, nextWord, second]
  | counting word =>
      have apart : forall counting, counting ∈ countsItself -> counting ≠ "NOT".toList ∧
          counting ≠ "PRIMARY".toList := by
        decide
      simp only [attributeStep, beq_eq_false_iff_ne.mpr (apart _ word).1,
        beq_eq_false_iff_ne.mpr (apart _ word).2, List.contains_iff_mem.mpr word, Bool.false_and,
          Bool.false_eq_true, if_false, if_true]
  | preset word size => simp [attributeStep, word, countsItself, size]
  | remark word literal => simp [attributeStep, word, countsItself, literal]
  | reference word => simp [attributeStep, word, countsItself]
  | group plain opens => rw [plain.attributeStep_eq, if_pos (beq_iff_eq.mpr opens)]
  | passed plain unopened =>
      rw [plain.attributeStep_eq, if_neg (fun opens => unopened (beq_iff_eq.mp opens))]

theorem readAttributes_eq (read : AttributeRead body name a t rest a' next) :
    readAttributes body name a (t :: rest) = readAttributes body name a' next := by
  rw [readAttributes_cons, read.attributeStep_eq]

theorem suffix (read : AttributeRead body name a t rest a' next) : next <:+ rest := by
  cases read with
  | required => exact List.suffix_cons _ next
  | key => exact List.suffix_cons _ next
  | counting => exact skipParens_suffix rest
  | preset => exact List.suffix_append _ next
  | remark => exact List.suffix_cons _ next
  | reference => exact List.suffix_rfl
  | group => exact afterParens_suffix rest
  | passed => exact List.suffix_rfl

end AttributeRead

/-- The attributes are those of the first token, and then those of the tokens that it leaves.  So
what every token keeps is kept up to the end. -/
theorem attributes_induction (body name : Text) {motive : Attributes -> List Token -> Prop}
    (nil : forall a, motive a [])
    (cons : forall {a a' : Attributes} {t : Token} {rest next : List Token},
      AttributeRead body name a t rest a' next -> motive a' next -> motive a (t :: rest))
    (a : Attributes) (tokens : List Token) : motive a tokens := by
  induction size : tokens.length using Nat.strong_induction_on generalizing a tokens with
  | _ size ih =>
  subst size
  cases tokens with
  | nil => exact nil a
  | cons t rest =>
      have read := attributeRead_attributeStep body name a t rest
      exact cons read (ih _ (Nat.lt_succ_of_le read.suffix.length_le) _ _ rfl)

def attributeWords : List Text :=
  "NOT".toList :: "PRIMARY".toList :: "DEFAULT".toList :: "COMMENT".toList :: "REFERENCES".toList ::
    countsItself

/-- Any other token is passed over, a group in parentheses as a whole. -/
theorem readAttributes_of_not_mem {t : Token} (other : t.word ∉ attributeWords) (body name : Text)
    (a : Attributes) (rest : List Token) : readAttributes body name a (t :: rest) =
      readAttributes body name a (if t.kind == .openParen then afterParens rest else rest) := by
  simp only [attributeWords, List.mem_cons, not_or] at other
  rcases other with ⟨noNot, noPrimary, noDefault, noComment, noReference, noCounting⟩
  have plain : BeginsNothing t rest :=
    { notNull := fun both => noNot both.1
      noKey := fun both => noPrimary both.1
      noCounting := noCounting
      noDefault := noDefault
      noRemark := fun both => noComment both.1
      noReference := noReference }
  rw [readAttributes_cons, plain.attributeStep_eq]

end Table
end SchemaAtlas
