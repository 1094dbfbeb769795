import SchemaAtlas.Proofs.Table.Attribute
import SchemaAtlas.Proofs.Token.Reads

namespace SchemaAtlas
namespace Table

open Token

/-!
Elements read from tokens that stand elsewhere.

Tokens are relocated by a map that keeps what they show.  Every part of reading goes by kinds and
texts, and commutes with the map.  Only the expression of a default value is cut out of the text of
the body, so the pieces of text between tokens have to be the same in both places.
-/

/-- The map keeps the kinds and the texts of tokens. -/
def KeepsForms (φ : Token -> Token) : Prop :=
  forall t, (φ t).form = t.form

/-- Between any two of the tokens there is the same text in both bodies. -/
def SameSpans (φ : Token -> Token) (body moved : Text) (tokens : List Token) : Prop :=
  forall first, first ∈ tokens -> forall last, last ∈ tokens ->
    (moved.take (φ last).stop).drop (φ first).place.position =
      (body.take last.stop).drop first.place.position

theorem SameSpans.mono {φ : Token -> Token} {body moved : Text} {tokens fewer : List Token}
    (same : SameSpans φ body moved tokens) (listed : fewer ⊆ tokens) :
    SameSpans φ body moved fewer :=
  fun first inFirst last inLast => same first (listed inFirst) last (listed inLast)

section Relocated

variable {φ : Token -> Token} (keeps : KeepsForms φ)

include keeps

theorem kind_relocated (t : Token) : (φ t).kind = t.kind :=
  kind_of_form (keeps t)

theorem value_relocated (t : Token) : (φ t).value = t.value :=
  value_of_form (keeps t)

theorem upper_relocated (t : Token) : (φ t).upper = t.upper := by
  rw [Token.upper, value_relocated keeps, Token.upper]

theorem word_relocated (t : Token) : (φ t).word = t.word := by
  rw [Token.word, kind_relocated keeps, upper_relocated keeps, Token.word]

theorem nesting_relocated (t : Token) : nesting (φ t) = nesting t := by
  rw [nesting, kind_relocated keeps, nesting]

theorem named_relocated (t : Token) :
    ((φ t).isName || (φ t).isReserved) = (t.isName || t.isReserved) := by
  simp only [Token.isName, Token.isReserved, kind_relocated keeps]

theorem flatMap_value_relocated (tokens : List Token) :
    (tokens.map φ).flatMap value = tokens.flatMap value := by
  rw [List.flatMap_map]
  congr 1
  funext t
  exact value_relocated keeps t

theorem nextWord_relocated (tokens : List Token) : nextWord (tokens.map φ) = nextWord tokens := by
  cases tokens with
  | nil => rfl
  | cons t rest => exact word_relocated keeps t

/-! Parentheses and groups. -/

theorem closingOffset?_relocated (depth : Int) (tokens : List Token) :
    closingOffset? depth (tokens.map φ) = closingOffset? depth tokens := by
  induction tokens generalizing depth with
  | nil => rfl
  | cons t rest ih =>
      simp only [List.map_cons, closingOffset?, kind_relocated keeps, nesting_relocated keeps, ih]

theorem insideParens_relocated (tokens : List Token) :
    insideParens (tokens.map φ) = (insideParens tokens).map φ := by
  rw [insideParens, closingOffset?_relocated keeps, insideParens]
  cases closingOffset? 1 tokens with
  | none => rfl
  | some n => exact List.map_take.symm

theorem afterParens_relocated (tokens : List Token) :
    afterParens (tokens.map φ) = (afterParens tokens).map φ := by
  rw [afterParens, closingOffset?_relocated keeps, afterParens]
  cases closingOffset? 1 tokens with
  | none => rfl
  | some n => exact List.map_drop.symm

theorem skipParens_relocated (tokens : List Token) :
    skipParens (tokens.map φ) = (skipParens tokens).map φ := by
  cases tokens with
  | nil => rfl
  | cons t rest =>
      rw [List.map_cons, skipParens, kind_relocated keeps, afterParens_relocated keeps, skipParens]
      split
      · rfl
      · rfl

theorem pieces_relocated (depth : Int) (tokens : List Token) :
    pieces depth (tokens.map φ) = (pieces depth tokens).map (List.map φ) := by
  have onto : forall t groups, ontoFirstGroup (φ t) (groups.map (List.map φ)) =
      (ontoFirstGroup t groups).map (List.map φ) := by
    intro t groups
    cases groups with
    | nil => rfl
    | cons group groups => rfl
  induction tokens generalizing depth with
  | nil => rfl
  | cons t rest ih =>
      simp only [List.map_cons, pieces, kind_relocated keeps, nesting_relocated keeps, ih, onto]
      split
      · rfl
      · rfl

theorem groups_relocated (tokens : List Token) :
    groups (tokens.map φ) = (groups tokens).map (List.map φ) := by
  rw [groups, pieces_relocated keeps, groups, List.filter_map]
  congr 2
  funext group
  cases group with
  | nil => rfl
  | cons t rest => rfl

/-! Names and references. -/

theorem nameList_relocated (tokens : List Token) : nameList (tokens.map φ) = nameList tokens := by
  rw [nameList, insideParens_relocated keeps, groups_relocated keeps, nameList, List.filterMap_map]
  congr 1
  funext group
  cases group with
  | nil => rfl
  | cons t rest =>
      simp only [Function.comp_apply, List.map_cons, kind_relocated keeps, value_relocated keeps]

omit keeps in
theorem dropWhile_relocated {test : Token -> Bool}
    (blind : forall t, test (φ t) = test t) (tokens : List Token) :
    (tokens.map φ).dropWhile test = (tokens.dropWhile test).map φ := by
  rw [List.dropWhile_map]
  congr 2
  funext t
  exact blind t

theorem nameListIn_relocated (tokens : List Token) :
    nameListIn (tokens.map φ) = nameListIn tokens := by
  have blind : forall t : Token, ((φ t).kind != .openParen) = (t.kind != .openParen) := by
    intro t
    rw [kind_relocated keeps]
  rw [nameListIn, dropWhile_relocated blind, nameListIn]
  cases tokens.dropWhile fun t => t.kind != .openParen with
  | nil => rfl
  | cons t rest => exact nameList_relocated keeps rest

theorem qualifiedTokens_relocated (free : Bool) (tokens : List Token) :
    qualifiedTokens free (tokens.map φ) =
      ((qualifiedTokens free tokens).1.map φ, (qualifiedTokens free tokens).2.map φ) := by
  induction tokens generalizing free with
  | nil => rfl
  | cons t rest ih =>
      simp only [List.map_cons, qualifiedTokens, kind_relocated keeps, named_relocated keeps, ih]
      split
      · rfl
      · rfl

theorem reference?_relocated (columns : List Text) (tokens : List Token) :
    reference? columns (tokens.map φ) = reference? columns tokens := by
  simp only [reference?, qualifiedTokens_relocated keeps, flatMap_value_relocated keeps]
  split
  · rfl
  · cases (qualifiedTokens true tokens).2 with
    | nil => rfl
    | cons t rest => simp only [List.map_cons, kind_relocated keeps, nameList_relocated keeps]

/-! Attributes of columns. -/

theorem defaultLength_relocated (depth : Int) (isFirst : Bool) (tokens : List Token) :
    defaultLength depth isFirst (tokens.map φ) = defaultLength depth isFirst tokens := by
  induction tokens generalizing depth isFirst with
  | nil => rfl
  | cons t rest ih =>
      simp only [List.map_cons, defaultLength, word_relocated keeps, nextWord_relocated keeps,
        nesting_relocated keeps, ih]

omit keeps in
theorem spannedText?_relocated {body moved : Text} {tokens : List Token}
    (same : SameSpans φ body moved tokens) :
    spannedText? moved (tokens.map φ) = spannedText? body tokens := by
  cases tokens with
  | nil => rfl
  | cons t rest =>
      have last : (φ t :: rest.map φ).getLastD (φ t) = φ ((t :: rest).getLastD t) := by
        rw [List.getLastD_cons, List.getLastD_cons, List.getLastD_map]
      have listed : (t :: rest).getLastD t ∈ t :: rest := by
        rw [List.getLastD_cons]
        exact List.getLastD_mem_cons
      rw [List.map_cons, spannedText?, last, same t List.mem_cons_self _ listed]
      rfl

end Relocated

/-! Attributes of columns, one step at a time. -/

/-- Only the word for it makes a reference. -/
theorem AttributeRead.references_eq {body name : Text} {a a' : Attributes} {t : Token}
    {rest next : List Token} (read : AttributeRead body name a t rest a' next)
    (other : t.word ≠ "REFERENCES".toList) : a'.references = a.references := by
  cases read with
  | reference word => exact absurd word other
  | _ => rfl

theorem references_readAttributes {tokens : List Token}
    (other : forall t, t ∈ tokens -> t.word ≠ "REFERENCES".toList) (body name : Text)
    (a : Attributes) : (readAttributes body name a tokens).references = a.references := by
  induction a, tokens using attributes_induction body name with
  | nil a => rw [readAttributes_nil]
  | @cons a a' t rest next read ih =>
      rw [read.readAttributes_eq,
        ih fun u member => other u (List.mem_cons_of_mem t (read.suffix.subset member))]
      exact read.references_eq (other t List.mem_cons_self)

section Relocated

variable {φ : Token -> Token} (keeps : KeepsForms φ) {body moved : Text}

include keeps

theorem BeginsNothing.relocated {t : Token} {rest : List Token} (plain : BeginsNothing t rest) :
    BeginsNothing (φ t) (rest.map φ) := by
  have kinds : (rest.map φ).head?.map Token.kind = rest.head?.map Token.kind := by
    cases rest with
    | nil => rfl
    | cons u others => exact congrArg some (kind_relocated keeps u)
  rcases plain with ⟨notNull, noKey, noCounting, noDefault, noRemark, noReference⟩
  constructor
  all_goals
    simp only [word_relocated keeps, nextWord_relocated keeps, kinds]
    assumption

theorem AttributeRead.relocated {name : Text} {a a' : Attributes} {t : Token}
    {rest next : List Token} (read : AttributeRead body name a t rest a' next)
    (same : SameSpans φ body moved rest) :
    AttributeRead moved name a (φ t) (rest.map φ) a' (next.map φ) := by
  have word : (φ t).word = t.word := word_relocated keeps t
  have kind : (φ t).kind = t.kind := kind_relocated keeps t
  cases read with
  | required here second =>
      exact .required (word.trans here) ((word_relocated keeps _).trans second)
  | key here second => exact .key (word.trans here) ((word_relocated keeps _).trans second)
  | counting here =>
      rw [← skipParens_relocated keeps]
      exact .counting (word ▸ here)
  | @preset value _ here size =>
      rw [List.map_append, ← spannedText?_relocated
        (same.mono (List.subset_append_left value next))]
      apply AttributeRead.preset (word.trans here)
      rw [← List.map_append, defaultLength_relocated keeps, size, List.length_map]
  | remark here literal =>
      rw [← value_relocated keeps]
      exact .remark (word.trans here) ((kind_relocated keeps _).trans literal)
  | reference here =>
      rw [← reference?_relocated keeps]
      exact .reference (word.trans here)
  | group plain opens =>
      rw [← afterParens_relocated keeps]
      exact .group (plain.relocated keeps) (kind.trans opens)
  | passed plain unopened => exact .passed (plain.relocated keeps) (kind.trans_ne unopened)

theorem readAttributes_relocated (name : Text) (a : Attributes) {tokens : List Token}
    (same : SameSpans φ body moved tokens) :
    readAttributes moved name a (tokens.map φ) = readAttributes body name a tokens := by
  induction a, tokens using attributes_induction body name with
  | nil a => rw [List.map_nil, readAttributes_nil, readAttributes_nil]
  | @cons a a' t rest next read ih =>
      have inside : SameSpans φ body moved rest := same.mono (List.subset_cons_self t rest)
      calc readAttributes moved name a ((t :: rest).map φ)
          = readAttributes moved name a' (next.map φ) :=
        (read.relocated keeps inside).readAttributes_eq
        _ = readAttributes body name a' next := ih (inside.mono read.suffix.subset)
        _ = readAttributes body name a (t :: rest) := read.readAttributes_eq.symm

/-! Whole elements. -/

theorem enumValues_relocated (tokens : List Token) :
    enumValues (tokens.map φ) = enumValues tokens := by
  rw [enumValues, groups_relocated keeps, enumValues, List.map_map]
  apply List.map_congr_left
  intro group _
  rcases group with _ | ⟨t, _ | ⟨u, others⟩⟩
  · rfl
  · simp only [Function.comp_apply, List.map_cons, List.map_nil, value_relocated keeps]
  · exact flatMap_value_relocated keeps (t :: u :: others)

theorem typeParams_relocated (tokens : List Token) :
    typeParams (tokens.map φ) = ((typeParams tokens).1.map (List.map φ),
      (typeParams tokens).2.map φ) := by
  cases tokens with
  | nil => rfl
  | cons t rest =>
      simp only [List.map_cons, typeParams, kind_relocated keeps, insideParens_relocated keeps,
        afterParens_relocated keeps]
      split
      · rfl
      · rfl

theorem sizeAndValues_relocated (base : Text) (params : Option (List Token)) :
    sizeAndValues base (params.map (List.map φ)) = sizeAndValues base params := by
  cases params with
  | none => rfl
  | some tokens =>
      simp only [Option.map_some, sizeAndValues, enumValues_relocated keeps,
        flatMap_value_relocated keeps]

theorem readColumn_relocated (head second : Token) {rest : List Token}
    (same : SameSpans φ body moved rest) :
    readColumn moved (φ head) (φ second) (rest.map φ) = readColumn body head second rest := by
  have behind : SameSpans φ body moved (typeParams rest).2 :=
    same.mono (typeParams_suffix rest).subset
  simp only [readColumn, value_relocated keeps, typeParams_relocated keeps,
    sizeAndValues_relocated keeps, readAttributes_relocated keeps _ _ behind]

theorem isIndex_relocated (head name : Token) (rest : List Token) :
    isIndex (φ head) (φ name) (rest.map φ) = isIndex head name rest := by
  have named : forall tokens : List Token, (tokens.map φ).any (fun u => u.isName || u.isReserved) =
      tokens.any fun u => u.isName || u.isReserved := by
    intro tokens
    rw [List.any_map]
    congr 1
    funext u
    exact named_relocated keeps u
  simp only [isIndex, kind_relocated keeps, upper_relocated keeps]
  cases rest with
  | nil => rfl
  | cons t after =>
      simp only [List.map_cons, kind_relocated keeps, insideParens_relocated keeps, named]

theorem isColumn_relocated (head second : Token) (rest : List Token) :
    isColumn (φ head) (φ second) (rest.map φ) = isColumn head second rest := by
  simp only [isColumn, upper_relocated keeps, named_relocated keeps, isIndex_relocated keeps,
    value_relocated keeps]

theorem readConstraint_relocated (tokens : List Token) :
    readConstraint (tokens.map φ) = readConstraint tokens := by
  have words : ((tokens.map φ).take 2).map Token.upper = (tokens.take 2).map Token.upper := by
    rw [← List.map_take, List.map_map]
    exact List.map_congr_left fun t _ => upper_relocated keeps t
  have behind : (tokens.map φ).dropWhile (fun t => t.upper != "REFERENCES".toList) =
      (tokens.dropWhile fun t => t.upper != "REFERENCES".toList).map φ :=
    dropWhile_relocated (fun t => by rw [upper_relocated keeps]) tokens
  simp only [readConstraint, words, ← List.map_drop, nameListIn_relocated keeps, behind]
  cases tokens.dropWhile fun t => t.upper != "REFERENCES".toList with
  | nil => rfl
  | cons t rest => simp only [List.map_cons, reference?_relocated keeps]

theorem readOther_relocated (tokens : List Token) :
    readOther (tokens.map φ) = readOther tokens := by
  cases tokens with
  | nil => rfl
  | cons head rest =>
      have values : (((head :: rest).map φ).take 3).map Token.value =
          ((head :: rest).take 3).map Token.value := by
        rw [← List.map_take, List.map_map]
        exact List.map_congr_left fun t _ => value_relocated keeps t
      have constraint := readConstraint_relocated keeps (head :: rest)
      have labelled := readConstraint_relocated keeps ((head :: rest).drop 2)
      rw [List.map_drop] at labelled
      rw [List.map_cons] at values constraint labelled ⊢
      simp only [readOther, upper_relocated keeps, List.length_cons, List.length_map, values,
        constraint, labelled]

/-- An element is read alike wherever its tokens stand. -/
theorem readElement_relocated {tokens : List Token} (same : SameSpans φ body moved tokens) :
    readElement moved (tokens.map φ) = readElement body tokens := by
  rcases tokens with _ | ⟨head, _ | ⟨second, rest⟩⟩
  · rfl
  · exact readOther_relocated keeps [head]
  · have inside : SameSpans φ body moved rest :=
      same.mono (List.subset_cons_of_subset head (List.subset_cons_self second rest))
    simp only [List.map_cons, readElement, isColumn_relocated keeps,
      readColumn_relocated keeps head second inside]
    split
    · rfl
    · exact readOther_relocated keeps (head :: second :: rest)

end Relocated

end Table
end SchemaAtlas
