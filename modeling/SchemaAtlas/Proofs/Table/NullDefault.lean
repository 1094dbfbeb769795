import SchemaAtlas.Ddl
import SchemaAtlas.Proofs.Case
import SchemaAtlas.Proofs.Default.Quoted
import SchemaAtlas.Proofs.Phrase.Search
import SchemaAtlas.Proofs.Table.Attribute
import SchemaAtlas.Proofs.Table.Body
import SchemaAtlas.Proofs.Table.Coherent
import SchemaAtlas.Proofs.Table.Trait
import SchemaAtlas.Proofs.Token.Span

namespace SchemaAtlas

/-!
Columns whose default value is nothing.

The attributes of a column are read from the left, parentheses passed over, and the value behind the
word `DEFAULT` is the text up to the next attribute.  Where that text begins with the word `NULL`,
the column stores the word alone and it is written in every dialect, unless the column holds truth
values: then the text counts as false, or as true if a one stands in it, and a truth value is
written.  Every word `DEFAULT` begins a value, also the one that a reference names as its action,
and the last one counts.  Where a reference ends with that word the value is gone, and where another
action stands behind it the words of that action are the value.
-/

namespace Default

/-! What is stored and written for nothing. -/

/-- A text that mentions nothing is stored as the word alone, or as a truth value
where the type holds one. -/
theorem normal?_of_mentionsNull {value : Text}
    (mentions : value ≠ [] ∧ Text.trim value = value ∧ DefaultKind.mentionsNull value = true)
    (base : Text) (length : Option Text) : normal? (some value) base length =
      some (if TypeText.isBoolean base length then truthWord (isTruthy value) else "NULL") := by
  rcases mentions with ⟨filled, bare, nothing⟩
  have stored : normalOther value = "NULL".toList := by
    simp only [normalOther, DefaultKind.ofText, bare, DefaultKind.ofTrimmed, nothing, if_true]
  cases value with
  | nil => exact absurd rfl filled
  | cons c rest =>
      simp only [normal?, Option.map_some, bare, stored]
      split
      · rfl
      · rfl

theorem isTruthy_truthWord (b : Bool) : isTruthy (truthWord b) = b := by
  cases b with
  | true => decide
  | false => decide

/-- A stored truth value is written as one. -/
theorem render_truthWord (d : Dialect) {base : Text} {length : Option Text}
    (truth : TypeText.isBoolean base length = true) (t : Text) :
    render d (truthWord (isTruthy t)) base length = .ok (some (truthLiteral d t)) := by
  have words : forall b, withoutCasts (truthWord b) = truthWord b ∧
      Text.trim (truthWord b) = truthWord b ∧
      (truthWord b).isEmpty = false ∧ Text.has "now(".toList (Text.lower (truthWord b)) = false ∧
      Phrase.holds renewedTime (truthWord b) = false ∧
        (Text.upper (truthWord b) == "NULL".toList) = false := by
    intro b
    rw [withoutCasts_eq_self_iff]
    cases b with
    | true => decide
    | false => decide
  rcases words (isTruthy t) with ⟨plain, bare, filled, noCall, noRenewal, noNull⟩
  have same : truthLiteral d (truthWord (isTruthy t)) = truthLiteral d t := by
    rw [truthLiteral, isTruthy_truthWord]
    rfl
  simp only [render, plain, bare, filled, noCall, noRenewal, noNull, truth, same, Bool.and_false,
    Bool.false_eq_true, if_false, if_true]

/-- A truth value shows itself, and never as nothing. -/
theorem truthLiteral_ne (d : Dialect) (t : Text) :
    truthLiteral d t ≠ [] ∧ truthLiteral d t ≠ "NULL".toList := by
  unfold truthLiteral
  generalize isTruthy t = b
  cases d <;> cases b <;> decide

/-- The default value that is written for a stored one, unless nothing is left of it. -/
def written (d : Dialect) (stored : Option Text) (base : Text) (length : Option Text) :
    Except NumeralError (Option Text) :=
  match stored with
  | none => .ok none
  | some t => (render d t base length).map fun rendered => rendered.filter fun t => !t.isEmpty

theorem written_of_render {d : Dialect} {stored text base : Text} {length : Option Text}
    (rendered : render d stored base length = .ok (some text)) (filled : text ≠ []) :
    written d (some stored) base length = .ok (some text) := by
  simp [written, rendered, filled, Except.map]

end Default

namespace Dialect

/-- The comment of a column, which only MySQL has. -/
def remarks (d : Dialect) (c : Column) : List Text :=
  match d, c.comment with
  | .mysql, some (x :: xs) => ["COMMENT ".toList ++ Text.inApostrophes (escapeComment (x :: xs))]
  | _, _ => []

/-- The text of a column that may be empty, is no key and does not count, with a
default value or without. -/
def vacantColumn (d : Dialect) (c : Column) (written : Option Text) : Text :=
  Text.join [' '] ([d.quoteColumn c.name, d.typeOf c, "NULL"] ++
    (written.map fun t => "DEFAULT ".toList ++ t).toList ++ d.remarks c)

/-- Such a column is written with its default value, unless nothing is left of the value. -/
theorem column_eq_vacantColumn {d : Dialect} {c : Column} (noKey : c.primaryKey = false)
    (noCounting : c.autoIncrement = false) (vacant : c.nullable = true) (apart : Bool) :
    d.column c apart = (Default.written d c.default c.baseType c.length).map
      (d.vacantColumn c) := by
  have default : d.defaultOf c = Default.written d c.default c.baseType c.length := by
    unfold defaultOf Default.written
    cases c.default with
    | none => rfl
    | some stored => simp [noKey, noCounting, vacant]
  have shown : d.vacantColumn c = fun written =>
      Text.join [' '] ([d.quoteColumn c.name, d.typeOf c, presence c apart] ++ [] ++
        (written.toList.map fun t => "DEFAULT ".toList ++ t) ++ d.remarks c) := by
    funext written
    rw [vacantColumn, presence, noKey, vacant]
    cases written with
    | none => rfl
    | some t => rfl
  unfold column
  rw [noCounting, Bool.false_and, if_neg Bool.false_ne_true, default, shown]
  rfl

end Dialect

namespace Table

open Token

/-! The clause of a default value. -/

/-- The tokens behind the first word `DEFAULT` outside of parentheses. -/
def defaultTail? (tokens : List Token) : Option (List Token) :=
  match tokens with
  | [] => none
  | t :: rest =>
    if t.word == "DEFAULT".toList then some rest
    else if t.kind == .openParen then defaultTail? (afterParens rest)
    else defaultTail? rest
termination_by tokens.length
decreasing_by
  all_goals
    have behind := afterParens_length_le rest
    simp only [List.length_cons]
    omega

/-- Opening parentheses show themselves. -/
def ParensShown (tokens : List Token) : Prop :=
  forall t, t ∈ tokens -> t.kind = .openParen -> t.value = ['(']

theorem ParensShown.of_suffix {tokens others : List Token} (shown : ParensShown tokens)
    (ending : others <:+ tokens) : ParensShown others :=
  fun t member => shown t (ending.subset member)

theorem ParensShown.defaultTail?_eq {t : Token} {rest : List Token}
    (shown : ParensShown (t :: rest)) {word : Text} (spelled : t.word = word)
    (other : word ∉ ["DEFAULT".toList, ['(']]) : defaultTail? rest = defaultTail? (t :: rest) := by
  simp only [List.mem_cons, List.not_mem_nil, or_false, not_or] at other
  have noDefault : (t.word == "DEFAULT".toList) = false :=
    beq_eq_false_iff_ne.mpr (spelled ▸ other.1)
  have noParen : (t.kind == .openParen) = false := by
    rw [beq_eq_false_iff_ne]
    intro opens
    have paren : t.word = ['('] := by
      rw [Token.word, Token.upper, opens, shown t List.mem_cons_self opens]
      decide
    exact other.2 (spelled.symm.trans paren)
  rw [defaultTail?, noDefault, noParen, if_neg Bool.false_ne_true, if_neg Bool.false_ne_true]

theorem defaultTail?_skipParens {rest : List Token} (shown : ParensShown rest) :
    defaultTail? (skipParens rest) = defaultTail? rest := by
  cases rest with
  | nil => rfl
  | cons u more =>
      rw [skipParens]
      cases opens : u.kind == .openParen with
      | false => rw [if_neg Bool.false_ne_true]
      | true =>
          have noDefault : (u.word == "DEFAULT".toList) = false := by
            rw [Token.word, Token.upper, beq_iff_eq.mp opens,
              shown u List.mem_cons_self (beq_iff_eq.mp opens)]
            decide
          rw [if_pos rfl, defaultTail?, noDefault, opens, if_neg Bool.false_ne_true, if_pos rfl]

/-- An attribute that is no default value changes neither the default value nor the tokens behind
the next word `DEFAULT`. -/
theorem AttributeRead.keeps_default {body name : Text} {a a' : Attributes} {t : Token}
    {rest next : List Token} (read : AttributeRead body name a t rest a' next)
    (shown : ParensShown (t :: rest)) (noDefault : t.word ≠ "DEFAULT".toList) :
    a'.default = a.default ∧ defaultTail? next = defaultTail? (t :: rest) := by
  have shownRest : ParensShown rest := shown.of_suffix (List.suffix_cons t rest)
  have elsewhere : defaultTail? (t :: rest) =
      if t.kind == .openParen then defaultTail? (afterParens rest) else defaultTail? rest := by
    rw [defaultTail?, if_neg (fun same => noDefault (beq_iff_eq.mp same))]
  cases read with
  | required word second =>
      exact ⟨rfl, (shownRest.defaultTail?_eq second (by decide)).trans
        (shown.defaultTail?_eq word (by decide))⟩
  | key word second =>
      exact ⟨rfl, (shownRest.defaultTail?_eq second (by decide)).trans
        (shown.defaultTail?_eq word (by decide))⟩
  | counting word =>
      have apart : forall counting, counting ∈ countsItself ->
        counting ∉ ["DEFAULT".toList, ['(']] := by decide
      exact ⟨rfl, (defaultTail?_skipParens shownRest).trans
        (shown.defaultTail?_eq rfl (apart _ word))⟩
  | preset word => exact absurd word noDefault
  | @remark u _ word literal =>
      -- a literal spells no word
      have wordless : u.word = [] := by
        rw [Token.word, literal]
        rfl
      exact ⟨rfl, (shownRest.defaultTail?_eq wordless (by decide)).trans
        (shown.defaultTail?_eq word (by decide))⟩
  | reference word => exact ⟨rfl, shown.defaultTail?_eq word (by decide)⟩
  | group plain opens => exact ⟨rfl, by rw [elsewhere, if_pos (beq_iff_eq.mpr opens)]⟩
  | passed plain unopened =>
      exact ⟨rfl, by rw [elsewhere, if_neg (fun opens => unopened (beq_iff_eq.mp opens))]⟩

/-- The expressions of the default values among the attributes, in order. -/
def presets (tokens : List Token) : List (List Token) :=
  match tokens with
  | [] => []
  | t :: rest =>
    if t.word == "DEFAULT".toList then
      rest.take (defaultLength 0 true rest) :: presets (rest.drop (defaultLength 0 true rest))
    else if t.kind == .openParen then presets (afterParens rest)
    else presets rest
termination_by tokens.length
decreasing_by
  all_goals
    have behind := afterParens_length_le rest
    simp only [List.length_cons, List.length_drop]
    omega

/-- The first expression stands behind the first word `DEFAULT`, and the others behind it. -/
theorem presets_eq (tokens : List Token) :
    presets tokens = match defaultTail? tokens with
      | none => []
      | some rest =>
        rest.take (defaultLength 0 true rest) :: presets
          (rest.drop (defaultLength 0 true rest)) := by
  fun_induction defaultTail? tokens with
  | case1 => rw [presets]
  | case2 t others here => rw [presets, if_pos here]
  | case3 t others elsewhere opens ih => rw [presets, if_neg elsewhere, if_pos opens, ih]
  | case4 t others elsewhere opens ih => rw [presets, if_neg elsewhere, if_neg opens, ih]

/-- The expression that counts from a word `DEFAULT` on, given what stands behind that word. -/
def lastPreset (rest : List Token) : List Token :=
  (presets (rest.drop (defaultLength 0 true rest))).getLastD (rest.take (defaultLength 0 true rest))

theorem getLast?_presets {tokens rest : List Token} (declared : defaultTail? tokens = some rest) :
    (presets tokens).getLast? = some (lastPreset rest) := by
  rw [presets_eq, declared, List.getLast?_cons, ← List.getLastD_eq_getLast?]
  rfl

/-- The text of the last expression is read as the default value. -/
theorem default_readAttributes {tokens : List Token} (shown : ParensShown tokens) (body name : Text)
    (a : Attributes) : (readAttributes body name a tokens).default =
      ((presets tokens).getLast?.map (spannedText? body)).getD a.default := by
  induction a, tokens using attributes_induction body name with
  | nil a =>
      rw [readAttributes_nil, presets]
      rfl
  | @cons a a' t rest next read ih =>
      have shownNext := shown.of_suffix (read.suffix.trans (List.suffix_cons t rest))
      rw [read.readAttributes_eq, ih shownNext]
      by_cases isDefault : t.word = "DEFAULT".toList
      · have same := read.attributeStep_eq.symm.trans
          (AttributeRead.default body name a isDefault rest).attributeStep_eq
        obtain ⟨rfl, rfl⟩ := Prod.mk.inj same
        rw [presets.eq_def (t :: rest)]
        simp only [isDefault, beq_self_eq_true, if_true, List.getLast?_cons, Option.map_some,
          Option.getD_some]
        cases (presets (rest.drop (defaultLength 0 true rest))).getLast? with
        | none => rfl
        | some expression => rfl
      · rcases read.keeps_default shown isDefault with ⟨kept, tail⟩
        rw [kept, presets_eq next, tail, ← presets_eq]

/-! The text of a default value. -/

theorem defaultTail?_suffix {tokens rest : List Token} (found : defaultTail? tokens = some rest) :
    rest <:+ tokens := by
  fun_induction defaultTail? tokens with
  | case1 => cases found
  | case2 t others here =>
      obtain rfl := Option.some.inj found
      exact List.suffix_cons t _
  | case3 t others elsewhere opens ih =>
      exact (ih found).trans ((afterParens_suffix others).trans (List.suffix_cons t others))
  | case4 t others elsewhere opens ih => exact (ih found).trans (List.suffix_cons t others)

/-- The first default value among the attributes of a column, where it is declared as nothing:
its text, which begins with the word for nothing, and the tokens behind the next word `DEFAULT`,
if there is one more. -/
def nullClause? (body : Text) (tokens : List Token) : Option (Text × Option (List Token)) :=
  match defaultTail? tokens with
  | some (word :: others) =>
    let size := defaultLength 0 true (word :: others)
    if word.word == "NULL".toList && !(body.drop word.stop).head?.any Text.isWordChar then
      (spannedText? body ((word :: others).take size)).map fun value =>
        (value, defaultTail? ((word :: others).drop size))
    else none
  | _ => none

theorem nullClause?_eq_some {body value : Text} {tokens : List Token} {next : Option (List Token)}
    (clause : nullClause? body tokens = some (value, next)) :
    exists word others, defaultTail? tokens = some (word :: others) ∧ word.word = "NULL".toList ∧
      (body.drop word.stop).head?.any Text.isWordChar = false ∧
      spannedText? body ((word :: others).take (defaultLength 0 true (word :: others))) =
        some value ∧
      defaultTail? ((word :: others).drop (defaultLength 0 true (word :: others))) = next := by
  unfold nullClause? at clause
  split at clause
  · rename_i word others found
    simp only at clause
    split at clause
    · rename_i isNull
      simp only [Bool.and_eq_true, beq_iff_eq, Bool.not_eq_true'] at isNull
      rcases Option.map_eq_some_iff.mp clause with ⟨text, spanned, parts⟩
      obtain ⟨rfl, rfl⟩ := Prod.mk.inj parts
      exact ⟨word, others, found, isNull.1, isNull.2, spanned, rfl⟩
    · cases clause
  · cases clause

/-- A text that begins with the word for nothing mentions it. -/
theorem mentionsNull_of_spelled {word more : Text}
    (spelled : Phrase.spells "null".toList word = true)
    (ends : forall c, more.head? = some c -> Text.isWordChar c = false) :
    Text.trim (word ++ more) ≠ [] ∧
      Text.trim (Text.trim (word ++ more)) = Text.trim (word ++ more) ∧
      DefaultKind.mentionsNull (Text.trim (word ++ more)) = true := by
  have solid := Phrase.isBlank_of_spells spelled (by decide +kernel)
  cases word with
  | nil => cases spelled
  | cons w word =>
      have bare : Text.trim (w :: word ++ more) = w :: word ++ Text.trimEnd more := by
        have start : Text.trimStart (w :: word ++ more) = w :: word ++ more :=
          Text.dropWhile_of_head fun c first => by
            obtain rfl := Option.some.inj first
            exact solid w List.mem_cons_self
        rw [Text.trim, start, Text.trimEnd_append_of_solid solid]
      have stops : Phrase.wordEnd (Text.trimEnd more) = [((), Text.trimEnd more)] := by
        rcases Text.exists_trimEnd_append more with ⟨space, _, split⟩
        cases kept : Text.trimEnd more with
        | nil => rfl
        | cons c rest =>
            rw [kept] at split
            have outside := ends c (by rw [split]; rfl)
            rw [Phrase.wordEnd, outside, if_neg Bool.false_ne_true]
      have here : Phrase.holds (DefaultKind.nullWord none) (w :: word ++ Text.trimEnd more) =
          true := by
        have read : DefaultKind.nullWord none (w :: word ++ Text.trimEnd more) =
            [((), Text.trimEnd more)] := by
          rw [DefaultKind.nullWord, Phrase.bind_apply, Phrase.wordStart, Option.any_none,
            if_neg Bool.false_ne_true, List.flatMap_singleton, Phrase.bind_apply,
              Phrase.letters_append _ spelled, List.flatMap_singleton, stops]
        rw [Phrase.holds, read]
        rfl
      refine ⟨?_, Text.trim_of_unpadded (Text.unpadded_trim _), ?_⟩
      · rw [bare]
        exact List.cons_ne_nil _ _
      · rw [bare, DefaultKind.mentionsNull, List.cons_append,
          Phrase.occursAfter, ← List.cons_append, here, Bool.true_or]

/-- The text of a default value that is declared as nothing mentions it. -/
theorem mentionsNull_of_nullClause {body value : Text} {tokens : List Token}
    {next : Option (List Token)} (clause : nullClause? body tokens = some (value, next))
    (within : tokens.Sublist (scan body .keep)) :
    value ≠ [] ∧ Text.trim value = value ∧ DefaultKind.mentionsNull value = true := by
  rcases nullClause?_eq_some clause with ⟨word, others, found, isNull, ends, spanned, _⟩
  have among : (word :: others).Sublist (scan body .keep) :=
    (defaultTail?_suffix found).sublist.trans within
  have stands : Stands body word :=
    (lossless_scan body).stands word (among.subset List.mem_cons_self)
  have size : exists n, defaultLength 0 true (word :: others) = 1 + n := by
    refine ⟨defaultLength (0 + nesting word) false others, ?_⟩
    rw [defaultLength, isNull]
    rfl
  rcases size with ⟨n, size⟩
  rw [size, Nat.add_comm, List.take_succ_cons] at spanned
  have ordered : Ordered (word :: others.take n) :=
    (ordered_scan body).sublist (((List.take_sublist n others).cons_cons word).trans among)
  rcases exists_spannedText? stands ordered with ⟨more, front, text⟩
  obtain rfl := Option.some.inj (text.symm.trans spanned)
  have spelled : Phrase.spells "null".toList word.value = true := by
    have upper : Text.upper word.value = "NULL".toList := by
      rw [Token.word] at isNull
      split at isNull
      · cases isNull
      · exact isNull
    have letters : ("NULL".toList.all Text.nullLetters.contains) = true := by decide
    exact Text.spells_of_upper
      (fun x member => List.contains_iff_mem.mp (List.all_eq_true.mp letters x member)) upper
  refine mentionsNull_of_spelled spelled fun c first => ?_
  rcases front with ⟨behind, split⟩
  rwa [← split, List.head?_append, first, Option.some_or, Option.any_some] at ends

/-! Where a column is declared. -/

/-- A group of tokens declares the column of a key. -/
def declaresKey (body key : Text) (group : List Token) : Bool :=
  match readElement body group with
  | .column r => r.column.key == key
  | _ => false

/-- The group of a body that declares the column of a key: the first one that does. -/
def declaringGroup? (body key : Text) : Option (List Token) :=
  (groups (bodyTokens (scan body .keep))).find? (declaresKey body key)

/-- The tokens of a column behind its name and its type. -/
def attributeTokens (group : List Token) : List Token :=
  (typeParams (group.drop 2)).2

/-- The default value of the column of a key, where it is declared as nothing. -/
def nullDefault? (body key : Text) : Option (Text × Option (List Token)) :=
  (declaringGroup? body key).bind fun group => nullClause? body (attributeTokens group)

namespace Draft

/-- A column of a draft is declared by the first group of its key. -/
theorem mem_columns_foldl_add (body : Text) (groups : List (List Token)) {d : Draft}
    {entry : Column × Bool}
    (member : entry ∈ ((groups.map (readElement body)).foldl add d).columns) :
    entry ∈ d.columns ∨ entry.1.key ∉ d.columnKeys ∧
      exists group r, groups.find? (declaresKey body entry.1.key) = some group ∧
        readElement body group = .column r ∧ entry = (r.column, r.counts) := by
  induction groups generalizing d with
  | nil => exact .inl member
  | cons group rest ih =>
      rcases columns_add d (readElement body group) with ⟨same, taken⟩ | ⟨r, element, isNew, added⟩
      · have keys : (d.add (readElement body group)).columnKeys = d.columnKeys :=
          congrArg (List.map fun entry : Column × Bool => entry.1.key) same
        rcases ih member with before | ⟨absent, first⟩
        · exact .inl (same ▸ before)
        · rw [keys] at absent
          have other : declaresKey body entry.1.key group = false := by
            unfold declaresKey
            split
            · rename_i r element
              exact beq_eq_false_iff_ne.mpr fun equal => absent (equal ▸ taken r element)
            · rfl
          exact .inr ⟨absent, by rwa [List.find?_cons_of_neg (Bool.eq_false_iff.mp other)]⟩
      · have keys : (d.add (readElement body group)).columnKeys =
            d.columnKeys ++ [r.column.key] := by
          rw [columnKeys, added, List.map_append]
          rfl
        have declares : forall key, declaresKey body key group = (r.column.key == key) := by
          intro key
          simp only [declaresKey, element]
        rcases ih member with before | ⟨absent, first⟩
        · rw [added] at before
          rcases List.mem_append.mp before with old | here
          · exact .inl old
          · obtain rfl := List.mem_singleton.mp here
            exact .inr ⟨isNew, group, r,
              List.find?_cons_of_pos ((declares _).trans (beq_self_eq_true _)), element, rfl⟩
        · rw [keys, List.mem_append, List.mem_singleton, not_or] at absent
          have other : declaresKey body entry.1.key group = false :=
            (declares _).trans (beq_eq_false_iff_ne.mpr (Ne.symm absent.2))
          exact .inr ⟨absent.1, by rwa [List.find?_cons_of_neg (Bool.eq_false_iff.mp other)]⟩

end Draft

/-- A column of a table that is no key column is as the first group of its key
declares it, counting apart. -/
theorem exists_reading_of_mem {sql spelled body : Text} {index : Int} {e : Entity}
    (read : ofText sql index = .ok e) (found : header? (unifyTypes sql) = some (spelled, body))
    {c : Column} (member : c ∈ e.columns) (noKey : c.primaryKey = false) :
    exists group r, declaringGroup? body c.key = some group ∧ readElement body group = .column r ∧
      c = { r.column with autoIncrement := c.autoIncrement } := by
  rcases ofText_eq_ok read with ⟨spelled', body', found', _, _, rfl⟩
  obtain ⟨rfl, rfl⟩ := Prod.mk.inj (Option.some.inj (found.symm.trans found'))
  rcases Draft.mem_countFirst member with ⟨entry, listed, same⟩
  rcases List.mem_map.mp listed with ⟨before, inDraft, settled⟩
  have unchanged : entry = before := by
    rw [← settled]
    split
    · rename_i named
      rw [← settled, if_pos named] at same
      rw [same] at noKey
      cases noKey
    · rfl
  subst unchanged
  rcases Draft.mem_columns_foldl_add body _ inDraft with
    nowhere | ⟨_, group, r, first, element, rfl⟩
  · cases nowhere
  · refine ⟨group, r, ?_, element, same⟩
    have key : c.key = r.column.key := by rw [same]; rfl
    rw [key]
    exact first

/-- The default value of a column that is declared as nothing: a truth value or the word alone,
and what the last expression says where the word `DEFAULT` follows once more. -/
theorem default_of_nullClause {body value : Text} {group : List Token} {next : Option (List Token)}
    {r : ColumnReading} (within : group.Sublist (scan body .keep))
    (element : readElement body group = .column r)
    (clause : nullClause? body (attributeTokens group) = some (value, next)) :
    (next = none -> r.column.default = some (if TypeText.isBoolean r.column.baseType r.column.length
      then Default.truthWord (Default.isTruthy value) else "NULL")) ∧
    (forall later, next = some later -> r.column.default =
      Default.normal? (spannedText? body (lastPreset later)) r.column.baseType
        r.column.length) := by
  rcases readElement_eq_column element with ⟨head, second, rest, rfl, _, rfl⟩
  have ending : attributeTokens (head :: second :: rest) <:+ head :: second :: rest :=
    (typeParams_suffix rest).trans (List.drop_suffix 2 (head :: second :: rest))
  have among := ending.sublist.trans within
  have shown : ParensShown (attributeTokens (head :: second :: rest)) := fun t member opens =>
    value_of_openParen (among.subset member) opens
  have mentions := mentionsNull_of_nullClause clause among
  rcases nullClause?_eq_some clause with ⟨word, others, found, _, _, spanned, behind⟩
  have default := default_readAttributes shown body (Name.stripQuotes head.value)
    ⟨true, false, serialTypes.contains (Text.upper (Name.stripQuotes second.value)), none, none, []⟩
  rw [getLast?_presets found, Option.map_some, Option.getD_some, lastPreset] at default
  constructor
  · rintro rfl
    rw [presets_eq, behind, List.getLastD_nil, spanned] at default
    exact (congrArg (Default.normal? · _ _) default).trans
      (Default.normal?_of_mentionsNull mentions _ _)
  · rintro later rfl
    rw [List.getLastD_eq_getLast?, getLast?_presets behind, Option.getD_some] at default
    exact congrArg (Default.normal? · _ _) default

/-- What is written of a column that may be empty, is no key and does not count, and whose
default value is declared as nothing.  Where no further default value follows, a default value is
written in every dialect: the word for nothing, unless the type holds truth values.  Then a truth
value is written, which is false as long as neither a one nor the word `TRUE` stands in the
declared text.  Where the word `DEFAULT` follows once more and ends the attributes, as in a
reference, no default value is written.  Where more stands behind it, the column is written with
what the last expression gives, as if nothing else had been declared. -/
theorem null_default_written {sql spelled body value : Text} {index : Int} {e : Entity} {c : Column}
    {next : Option (List Token)} (read : ofText sql index = .ok e) (member : c ∈ e.columns)
    (noKey : c.primaryKey = false) (noCounting : c.autoIncrement = false)
    (vacant : c.nullable = true) (found : header? (unifyTypes sql) = some (spelled, body))
    (declared : nullDefault? body c.key = some (value, next)) (d : Dialect) (apart : Bool) :
    (next = none -> exists written, d.column c apart = .ok (Text.join [' ']
        ([d.quoteColumn c.name, d.typeOf c, "NULL", "DEFAULT ".toList ++ written] ++ d.remarks c)) ∧
      written = (if TypeText.isBoolean c.baseType c.length then Default.truthLiteral d value
        else "NULL") ∧
      (written = "NULL".toList ↔ TypeText.isBoolean c.baseType c.length = false)) ∧
    (next = some [] -> d.column c apart = .ok (Text.join [' ']
        ([d.quoteColumn c.name, d.typeOf c, "NULL"] ++ d.remarks c))) ∧
    (forall later, next = some later -> d.column c apart =
      (Default.written d
        (Default.normal? (spannedText? body (lastPreset later)) c.baseType c.length)
        c.baseType c.length).map (d.vacantColumn c)) := by
  rcases exists_reading_of_mem read found member noKey with ⟨group, r, first, element, same⟩
  rw [nullDefault?, first, Option.bind_some] at declared
  have within : group.Sublist (scan body .keep) :=
    (sublist_of_mem_groups (List.mem_of_find?_eq_some first)).trans (sublist_bodyTokens _)
  rcases default_of_nullClause within element declared with ⟨once, twice⟩
  have sameDefault : r.column.default = c.default := by rw [same]
  have sameType : r.column.baseType = c.baseType := by rw [same]
  have sameLength : r.column.length = c.length := by rw [same]
  rw [sameDefault, sameType, sameLength] at once twice
  have column := Dialect.column_eq_vacantColumn (d := d) noKey noCounting vacant apart
  refine ⟨?_, ?_, ?_⟩
  · intro last
    have stored := once last
    refine ⟨_, ?_, rfl, ?_⟩
    · cases truth : TypeText.isBoolean c.baseType c.length with
      | true =>
          rw [truth, if_pos rfl] at stored
          rw [column, stored, Default.written_of_render (Default.render_truthWord d truth value)
            (Default.truthLiteral_ne d value).1]
          rfl
      | false =>
          rw [truth, if_neg Bool.false_ne_true] at stored
          rw [column, stored, Default.written_of_render (Default.render_null d _ _)
            (List.cons_ne_nil _ _)]
          rfl
    · cases TypeText.isBoolean c.baseType c.length with
      | true => exact iff_of_false (Default.truthLiteral_ne d value).2 Bool.noConfusion
      | false => exact iff_of_true rfl rfl
  · intro again
    have nothing : lastPreset [] = [] := by
      rw [lastPreset, List.drop_nil, presets]
      rfl
    rw [column, twice [] again, nothing]
    rfl
  · intro later again
    rw [column, twice later again]

/-- A column of truth values that is false by default. -/
def flagColumn : Column :=
  ⟨"a", "BOOLEAN", none, true, some "FALSE", false, false, none, none⟩

/-- A column of numbers without a default value. -/
def linkColumn : Column :=
  ⟨"a", "INT", none, true, none, false, false, none, none⟩

/-- A body in which words follow the second mention of the default value. -/
def actionBody : Text :=
  "(a INT DEFAULT NULL REFERENCES u ON DELETE SET DEFAULT ON UPDATE CASCADE)"

/-- A column of numbers whose default value is an action. -/
def actionColumn : Column :=
  ⟨"a", "INT", none, true, some "ON UPDATE CASCADE", false, false, none, none⟩

/-- A definition of one plain column gives a table of that column. -/
theorem ofText_of_draft {sql body : Text} {c : Column} {links : List ForeignKey}
    (found : header? (unifyTypes sql) = some ("t".toList, body))
    (draft : Draft.ofElements (elements body) = ⟨[(c, false)], [], links, 0, [], []⟩)
    (noKey : c.primaryKey = false) (noCounting : c.autoIncrement = false) :
    ofText sql 0 = .ok { Entity.empty "t" 0 with columns := [c], foreignKeys := links } := by
  have named : QualifiedName.ofText "t".toList = ⟨none, "t".toList⟩ := by decide +kernel
  have filled : (Draft.ofElements (elements body)).columns ≠ [] := by
    rw [draft]
    exact List.cons_ne_nil _ _
  have read := ofText_of_spelling named (List.cons_ne_nil _ _) found filled 0
  rw [draft] at read
  rcases c with ⟨name, base, length, nullable, default, key, counting, values, comment⟩
  obtain rfl : key = false := noKey
  obtain rfl : counting = false := noCounting
  exact read

/-- A truth value that is nothing by default is false by default instead.  A default value of
nothing is gone where a reference speaks of the default value once more, and where another action
follows that action is written. -/
theorem null_defaults_lost :
    (nullDefault? "(a BOOLEAN DEFAULT NULL)" "a" = some ("NULL".toList, none) ∧
      ofText "CREATE TABLE t (a BOOLEAN DEFAULT NULL)" 0 =
        .ok { Entity.empty "t" 0 with columns := [flagColumn] } ∧
      Dialect.column .mysql flagColumn false =
        .ok "\x60a\x60 TINYINT(1) NULL DEFAULT FALSE".toList) ∧
    (nullDefault? "(a INT DEFAULT NULL REFERENCES u ON DELETE SET DEFAULT)" "a" =
      some ("NULL".toList, some []) ∧
      ofText "CREATE TABLE t (a INT DEFAULT NULL REFERENCES u ON DELETE SET DEFAULT)" 0 =
        .ok { Entity.empty "t" 0 with columns := [linkColumn], foreignKeys := [⟨["a"], "u", []⟩] } ∧
      Dialect.column .mysql linkColumn false = .ok "\x60a\x60 INT NULL".toList) ∧
    ((exists later, nullDefault? actionBody "a" = some ("NULL".toList, some later) ∧
        spannedText? actionBody (lastPreset later) = some "ON UPDATE CASCADE".toList) ∧
      ofText ("CREATE TABLE t ".toList ++ actionBody) 0 =
        .ok { Entity.empty "t" 0 with
          columns := [actionColumn], foreignKeys := [⟨["a"], "u", []⟩] } ∧
      Dialect.column .mysql actionColumn false =
        .ok "\x60a\x60 INT NULL DEFAULT ON UPDATE CASCADE".toList) := by
  refine ⟨?_, ?_, ?_⟩
  · have found : header? (unifyTypes "CREATE TABLE t (a BOOLEAN DEFAULT NULL)") =
        some ("t".toList, "(a BOOLEAN DEFAULT NULL)".toList) := by decide +kernel
    have draft : Draft.ofElements (elements "(a BOOLEAN DEFAULT NULL)") =
        ⟨[(flagColumn, false)], [], [], 0, [], []⟩ := by decide +kernel
    have read := ofText_of_draft found draft rfl rfl
    have declared : nullDefault? "(a BOOLEAN DEFAULT NULL)" "a" = some ("NULL".toList, none) := by
      decide +kernel
    have decided :=
      (null_default_written read List.mem_cons_self rfl rfl rfl found declared .mysql false).1 rfl
    rcases decided with ⟨written, column, shown, _⟩
    have isFalse : written = "FALSE".toList := shown.trans (by decide +kernel)
    refine ⟨declared, read, column.trans ?_⟩
    rw [isFalse]
    decide +kernel
  · have found : header?
        (unifyTypes "CREATE TABLE t (a INT DEFAULT NULL REFERENCES u ON DELETE SET DEFAULT)") =
        some ("t".toList, "(a INT DEFAULT NULL REFERENCES u ON DELETE SET DEFAULT)".toList) := by
      decide +kernel
    have draft : Draft.ofElements
        (elements "(a INT DEFAULT NULL REFERENCES u ON DELETE SET DEFAULT)") =
        ⟨[(linkColumn, false)], [], [⟨["a"], "u", []⟩], 0, [], []⟩ := by decide +kernel
    have read := ofText_of_draft found draft rfl rfl
    have declared : nullDefault? "(a INT DEFAULT NULL REFERENCES u ON DELETE SET DEFAULT)" "a" =
        some ("NULL".toList, some []) := by decide +kernel
    have column :=
      (null_default_written read List.mem_cons_self rfl rfl rfl found declared .mysql false).2.1 rfl
    refine ⟨declared, read, column.trans ?_⟩
    decide +kernel
  · have found : header? (unifyTypes ("CREATE TABLE t ".toList ++ actionBody)) =
        some ("t".toList, actionBody) := by decide +kernel
    have draft : Draft.ofElements (elements actionBody) =
        ⟨[(actionColumn, false)], [], [⟨["a"], "u", []⟩], 0, [], []⟩ := by decide +kernel
    have read := ofText_of_draft found draft rfl rfl
    have seen : ((nullDefault? actionBody "a").map fun clause =>
        (clause.1, clause.2.map fun later => spannedText? actionBody (lastPreset later))) =
          some ("NULL".toList, some (some "ON UPDATE CASCADE".toList)) := by decide +kernel
    rcases Option.map_eq_some_iff.mp seen with ⟨⟨value, next⟩, declared, parts⟩
    rcases Prod.mk.inj parts with ⟨rfl, expression⟩
    rcases Option.map_eq_some_iff.mp expression with ⟨later, rfl, spanned⟩
    have column :=
      (null_default_written read List.mem_cons_self rfl rfl rfl found declared .mysql false).2.2
        later rfl
    refine ⟨⟨later, declared, spanned⟩, read, column.trans ?_⟩
    rw [spanned]
    decide +kernel

end Table
end SchemaAtlas
