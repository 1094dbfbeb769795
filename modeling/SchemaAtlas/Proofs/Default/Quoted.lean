import SchemaAtlas.Default.Render
import SchemaAtlas.Proofs.Insert.Cell
import SchemaAtlas.Proofs.Phrase.Replacing

namespace SchemaAtlas

/-!
Default values in single quotes.

Neither the reading of a default value nor its writing knows where a literal begins and ends: both
look for words in the literal as a whole.  A text in single quotes is therefore written as it is
read in general, but not if the word for nothing stands in it, if a conversion to a character type
does, or, for SQLite, if the call of the current time does.  What is written then is stated below as
well.
-/

namespace Phrase

variable {s : Text}

theorem halts_runWhere {test : Char -> Bool}
    (fails : forall c, s.head? = some c -> test c = false) : Halts (runWhere test) s := by
  intro t
  have taken : (t ++ s).takeWhile test = t.takeWhile test := by
    rw [List.takeWhile_append]
    split
    · rename_i whole
      have stop : s.takeWhile test = [] := by
        cases s with
        | nil => rfl
        | cons c more => simp [fails c rfl]
      have all := List.takeWhile_prefix test |>.eq_of_length whole
      rw [stop, List.append_nil, all]
    · rfl
  simp only [runWhere, taken, List.map_map]
  refine List.map_congr_left ?_
  intro n member
  have inside : n + 1 ≤ t.length := by
    have short := (List.takeWhile_prefix (l := t) test).length_le
    have range := List.mem_range.mp (List.mem_reverse.mp member)
    omega
  simp only [Function.comp, List.take_append_of_le_length inside,
    List.drop_append_of_le_length inside]

theorem advances_runWhere (test : Char -> Bool) : Advances (runWhere test) := by
  intro t reading member
  rcases List.mem_map.mp member with ⟨n, _, rfl⟩
  exact List.drop_suffix _ _

theorem halts_keyword {word : Text} (bare : forall c, s.head? = some c -> Text.isBlank c = false)
    (apart : forall c, s.head? = some c -> (word.all fun w => !Text.sameLetter w c) = true) :
    Halts (keyword word) s :=
  (halts_letters apart).bind fun _ => halts_blanks1 bare

end Phrase

namespace Default

/-! Conversions inside of quotes. -/

/-- No conversion reaches across a single quote. -/
theorem halts_textCast (behind : Text) : Phrase.Halts textCast ('\'' :: behind) := by
  have fails : forall test : Char -> Bool, test '\'' = false ->
      forall c, ('\'' :: behind).head? = some c -> test c = false :=
    fun _ => Text.fails_at_head '\'' behind
  have bare := fails Text.isBlank (by decide)
  have apart : forall word : Text, (word.all fun w => !Text.sameLetter w '\'') = true ->
      forall c, ('\'' :: behind).head? = some c ->
        (word.all fun w => !Text.sameLetter w c) = true := by
    intro word checked c found
    cases found
    exact checked
  have other : forall sign, '\'' ≠ sign -> forall c, ('\'' :: behind).head? = some c ->
      c ≠ sign := by
    intro sign differs c found
    cases found
    exact differs
  have name : Phrase.Halts textTypeName ('\'' :: behind) :=
    ((Phrase.halts_keyword bare (apart _ (by decide))).bind fun _ =>
      Phrase.halts_letters (apart _ (by decide))).either
      ((Phrase.halts_letters (apart _ (by decide))).either
        ((Phrase.halts_letters (apart _ (by decide))).either
          (Phrase.halts_letters (apart _ (by decide)))))
  have size : Phrase.Halts sizeInParens ('\'' :: behind) :=
    (Phrase.halts_char (other '(' (by decide))).bind fun _ =>
      (Phrase.halts_runWhere (fails Text.isDecimalDigit (by decide))).bind fun _ =>
        Phrase.halts_char (other ')' (by decide))
  have colon := Phrase.halts_char (other ':' (by decide))
  exact colon.bind fun _ => colon.bind fun _ =>
    (Phrase.halts_blanks bare).bind fun _ => name.bind fun _ =>
    (Phrase.halts_wordEnd (fails Text.isWordChar (by decide))).bind fun _ => size.optional

/-- A conversion begins with a colon. -/
theorem textCast_eq_nil {c : Char} (differs : c ≠ ':') (t : Text) : textCast (c :: t) = [] := by
  have colon : Phrase.char ':' (c :: t) = [] := by
    rw [Phrase.char, Phrase.bind_apply, Phrase.charWhere, if_neg (by simp [differs])]
    rfl
  rw [textCast, Phrase.bind_apply, colon]
  rfl

theorem withoutCasts_inApostrophes (body : Text) :
    withoutCasts (Text.inApostrophes body) = Text.inApostrophes (withoutCasts body) := by
  have last := @Phrase.replaceAfter_append Unit
    (fun _ => textCast) [] '\'' [] (fun _ => halts_textCast [])
    (fun _ => textCast_eq_nil (by decide) []) (some '\'') body
  have unbound : Phrase.replaceAfter (fun _ => textCast) [] (some '\'') body = withoutCasts body :=
    Phrase.replaceAfter_congr (p := fun _ => textCast) rfl body
  rw [withoutCasts, Phrase.replaceAll, Text.inApostrophes, List.cons_append,
    Phrase.replaceAfter_of_eq_nil (textCast_eq_nil (by decide) _), last, unbound]
  simp [Text.inApostrophes, Phrase.replaceAfter]

/-- A conversion takes up its first colon at least. -/
theorem consumes_textCast : Phrase.Consumes 1 textCast := by
  have name : Phrase.Advances textTypeName :=
    ((Phrase.advances_keyword _).bind fun _ => Phrase.advances_letters _).either
      ((Phrase.advances_letters _).either
        ((Phrase.advances_letters _).either (Phrase.advances_letters _)))
  have size : Phrase.Advances sizeInParens :=
    (Phrase.advances_char _).bind fun _ => (Phrase.advances_runWhere _).bind fun _ =>
      Phrase.advances_char _
  have behind : Phrase.Advances (do
      Phrase.char ':'
      Phrase.blanks
      textTypeName
      Phrase.wordEnd
      Phrase.optional sizeInParens) :=
    (Phrase.advances_char _).bind fun _ => Phrase.advances_blanks.bind fun _ => name.bind fun _ =>
      Phrase.advances_wordEnd.bind fun _ => size.optional
  have colon : Phrase.Consumes 1 (Phrase.char ':') :=
    (Phrase.consumes_charWhere _).bind fun _ => (Phrase.advances_give ()).consumes
  exact colon.bind fun _ => behind.consumes

/-- A text stays as it is only where no conversion stands in it. -/
theorem withoutCasts_eq_self_iff (t : Text) :
    withoutCasts t = t ↔ Phrase.occursAfter (fun _ => textCast) none t = false := by
  constructor
  · intro kept
    rw [Bool.eq_false_iff]
    intro somewhere
    have shortens : forall before : Option Char,
        Phrase.Consumes (([] : Text).length + 1) ((fun _ => textCast) before) :=
      fun _ => consumes_textCast
    have shorter := Phrase.length_replaceAfter_lt shortens somewhere
    rw [withoutCasts, Phrase.replaceAll] at kept
    rw [kept] at shorter
    exact Nat.lt_irrefl _ shorter
  · exact Phrase.replaceAfter_of_not_occursAfter

/-! What is read in quotes. -/

theorem unpadded_inApostrophes (body : Text) : Text.Unpadded (Text.inApostrophes body) :=
  Text.unpadded_enclosed (by decide) (by decide) body

/-- No word stands in front of a single quote. -/
theorem letters_inApostrophes (word : Text)
    (differs : (word.head?.map fun w => Text.sameLetter w '\'') = some false) (body : Text) :
    Phrase.letters word (Text.inApostrophes body) = [] := by
  cases word with
  | nil => cases differs
  | cons w word => exact Phrase.letters_eq_nil (Option.some.inj differs) word (body ++ ['\''])

/-- The word for nothing is not found where its letters do not stand. -/
theorem nullWord_eq_nil {before : Option Char} {t : Text}
    (noWord : Phrase.letters "null".toList t = []) : DefaultKind.nullWord before t = [] := by
  rw [DefaultKind.nullWord, Phrase.bind_apply, Phrase.wordStart]
  split
  · rfl
  · rw [List.flatMap_cons, List.flatMap_nil, List.append_nil, Phrase.bind_apply, noWord]
    rfl

theorem isFunction_inApostrophes (body : Text) :
    DefaultKind.isFunction (Text.inApostrophes body) = false := by
  have noName : (Text.isLatinLetter '\'' || '\'' == '_') = false := by decide
  have noCall : DefaultKind.isCall (Text.inApostrophes body) = false := by
    simp only [Text.inApostrophes, List.cons_append, DefaultKind.isCall, noName, Bool.false_and]
  have noClock : DefaultKind.clockWord (Text.inApostrophes body) = [] := by
    simp only [DefaultKind.clockWord, Phrase.either,
      letters_inApostrophes "current_timestamp".toList (by decide) body,
      letters_inApostrophes "current_date".toList (by decide) body,
      letters_inApostrophes "current_time".toList (by decide) body,
      letters_inApostrophes "localtimestamp".toList (by decide) body,
      letters_inApostrophes "localtime".toList (by decide) body, List.nil_append]
  have noReading : DefaultKind.clockReading (Text.inApostrophes body) = [] := by
    rw [DefaultKind.clockReading, Phrase.bind_apply, noClock]
    rfl
  simp [DefaultKind.isFunction, noCall, Phrase.holds, noReading]

theorem isBoolean_inApostrophes (body : Text) :
    DefaultKind.isBoolean (Text.inApostrophes body) = false := by
  have noBit : DefaultKind.isBitLiteral (Text.inApostrophes body) = false := by
    have differs : Text.sameLetter 'b' '\'' = false := by decide
    unfold DefaultKind.isBitLiteral
    split
    · rename_i shape
      rw [← (List.cons.inj shape).1, differs, Bool.false_and]
    · rfl
  simp only [DefaultKind.isBoolean, noBit, Phrase.holds, Phrase.either,
    letters_inApostrophes "true".toList (by decide) body,
    letters_inApostrophes "false".toList (by decide) body, List.nil_append, List.isEmpty_nil,
    Bool.not_true, Bool.or_self]

/-- Only the word for nothing is looked for inside of single quotes when a default value is read. -/
theorem normalOther_inApostrophes (body : Text) : normalOther (Text.inApostrophes body) =
    if DefaultKind.mentionsNull (Text.inApostrophes body) then "NULL".toList
      else Text.inApostrophes body := by
  have bare := Text.trim_of_unpadded (unpadded_inApostrophes body)
  have noNumber : DefaultKind.isNumber (Text.inApostrophes body) = false := by
    rw [DefaultKind.isNumber, bare]
    rfl
  have noCall := isFunction_inApostrophes body
  have noTruth := isBoolean_inApostrophes body
  have isString : Literal.enclosingQuote? (Text.inApostrophes body) = some '\'' :=
    Literal.enclosingQuote?_enclosed (by decide) body
  have requoted : requote (Text.inApostrophes body) = Text.inApostrophes body := by
    simp only [requote, bare, isString, Literal.withoutEnds_inApostrophes]
  cases nothing : DefaultKind.mentionsNull (Text.inApostrophes body) with
  | true => simp [normalOther, DefaultKind.ofText, DefaultKind.ofTrimmed, bare, nothing]
  | false =>
      cases dated : DefaultKind.isDatetime (Text.inApostrophes body) with
      | true =>
          simp [normalOther, DefaultKind.ofText, DefaultKind.ofTrimmed, bare, nothing, noNumber,
            noCall, dated, requoted]
      | false =>
          simp [normalOther, DefaultKind.ofText, DefaultKind.ofTrimmed, bare, nothing, noNumber,
            noCall, dated, noTruth, isString]

theorem normal?_of_trim {value t : Text} {base : Text} {length : Option Text}
    (trimmed : Text.trim value = t) (nonempty : t ≠ [])
    (noTruth : TypeText.isBoolean base length = false) :
    normal? (some value) base length = some (normalOther t) := by
  cases t with
  | nil => exact absurd rfl nonempty
  | cons c rest =>
      simp only [normal?, Option.map_some, trimmed, noTruth, Bool.false_eq_true, if_false]

/-! What is written of a value in quotes. -/

/-- A text in single quotes is written without the conversions in it, unless SQLite finds the
call of the current time in it. -/
theorem render_inApostrophes (d : Dialect) {base : Text} {length : Option Text}
    (noTruth : TypeText.isBoolean base length = false) (body : Text) :
    render d (Text.inApostrophes body) base length =
      if d = .sqlite ∧ Text.has "now(".toList
        (Text.lower (withoutCasts (Text.inApostrophes body))) = true then .ok none
      else (numeric base (withoutCasts (Text.inApostrophes body))).map some := by
  have shape := withoutCasts_inApostrophes body
  generalize withoutCasts body = inner at shape
  have bare := Text.trim_of_unpadded (unpadded_inApostrophes inner)
  have filled : (Text.inApostrophes inner).isEmpty = false := rfl
  have noRenewal : Phrase.holds renewedTime (Text.inApostrophes inner) = false := by
    have noClock := letters_inApostrophes "current_timestamp".toList (by decide) inner
    rw [Phrase.holds, renewedTime, Phrase.bind_apply, noClock]
    rfl
  have noNull : (Text.upper (Text.inApostrophes inner) == "NULL".toList) = false :=
    (Scalar.upper_ne_words _ ⟨by decide, by decide, by decide, by decide⟩).1
  simp only [render, shape, bare, filled, noRenewal, noNull, noTruth, Bool.false_eq_true, if_false,
    Bool.and_false, Bool.and_eq_true, beq_iff_eq]

/-- The word for nothing stays what it is, whatever the type. -/
theorem render_null (d : Dialect) (base : Text) (length : Option Text) :
    render d "NULL".toList base length = .ok (some "NULL".toList) := by
  have plain : withoutCasts "NULL".toList = "NULL".toList :=
    (withoutCasts_eq_self_iff _).mpr (by decide)
  have bare : Text.trim "NULL".toList = "NULL".toList := by decide
  have noCall : Text.has "now(".toList (Text.lower "NULL".toList) = false := by decide
  have noRenewal : Phrase.holds renewedTime "NULL".toList = false := by decide
  have nothing : (Text.upper "NULL".toList == "NULL".toList) = true := by decide
  simp only [render, plain, bare, noCall, noRenewal, nothing]
  simp

/-! Types of texts. -/

def characterTypes : List Text :=
  ["CHAR", "VARCHAR", "NVARCHAR", "TEXT", "TINYTEXT", "MEDIUMTEXT", "LONGTEXT"]

theorem isBoolean_of_mem_characterTypes {base : Text} (listed : base ∈ characterTypes)
    (length : Option Text) : TypeText.isBoolean base length = false := by
  have checked : (characterTypes.all fun base =>
      !(Text.upper (Text.trim base) == "BIT".toList) &&
        !Text.has "BOOL".toList (Text.upper (Text.trim base)) &&
        !(Text.upper (Text.trim base) == "TINYINT".toList)) = true := by decide +kernel
  have here := List.all_eq_true.mp checked base listed
  simp only [Bool.and_eq_true, Bool.not_eq_true'] at here
  simp only [TypeText.isBoolean, here, Bool.false_eq_true, if_false, Bool.false_and]

theorem numeric_of_mem_characterTypes {base : Text} (listed : base ∈ characterTypes) (t : Text) :
    numeric base t = .ok t := by
  have checked : (characterTypes.all fun base =>
      !Text.has "INT".toList (Text.upper base) && !isReal (Text.upper base)) =
        true := by decide +kernel
  have here := List.all_eq_true.mp checked base listed
  simp only [Bool.and_eq_true, Bool.not_eq_true'] at here
  simp only [numeric, here, Bool.false_eq_true, if_false]

/-- What comes of a text in single quotes as the default value of a column of texts: the word for
nothing where that word stands in the literal; else no default value for SQLite where the call of
the current time stands in it; else the literal without the conversions in it.  So it is written
as it was read just if none of the three stands in it. -/
theorem quoted_default_kept_iff {base : Text} (listed : base ∈ characterTypes) (s : Text)
    (length : Option Text) (d : Dialect) :
    exists stored, normal? (some (Literal.single s)) base length = some stored ∧
      render d stored base length = .ok (
        if DefaultKind.mentionsNull (Literal.single s) then some "NULL".toList
        else if d = .sqlite ∧ Text.has "now(".toList
          (Text.lower (withoutCasts (Literal.single s))) = true then none
        else some (withoutCasts (Literal.single s))) ∧
      (render d stored base length = .ok (some (Literal.single s)) ↔
        DefaultKind.mentionsNull (Literal.single s) = false ∧
          Phrase.occursAfter (fun _ => textCast) none (Literal.single s) = false ∧
          ¬ (d = .sqlite ∧ Text.has "now(".toList (Text.lower (Literal.single s)) = true)) := by
  have quoted : Literal.single s = Text.inApostrophes (Text.double '\'' s) := rfl
  rw [quoted]
  generalize Text.double '\'' s = body
  have noTruth := isBoolean_of_mem_characterTypes listed length
  have filled : Text.inApostrophes body ≠ [] := List.cons_ne_nil _ _
  refine ⟨_, normal?_of_trim (Text.trim_of_unpadded (unpadded_inApostrophes body)) filled noTruth,
    ?_⟩
  rw [normalOther_inApostrophes]
  cases DefaultKind.mentionsNull (Text.inApostrophes body) with
  | true =>
      have apart : "NULL".toList ≠ Text.inApostrophes body :=
        fun same => absurd (List.cons.inj same).1 (by decide)
      simp only [if_true, render_null]
      refine ⟨trivial, iff_of_false (fun same => apart ?_) (fun parts => Bool.noConfusion parts.1)⟩
      exact Option.some.inj (Except.ok.inj same)
  | false =>
      simp only [Bool.false_eq_true, if_false, render_inApostrophes d noTruth body,
        numeric_of_mem_characterTypes listed]
      have kept := withoutCasts_eq_self_iff (Text.inApostrophes body)
      by_cases called : d = .sqlite ∧
          Text.has "now(".toList (Text.lower (withoutCasts (Text.inApostrophes body))) = true
      · simp only [if_pos called, true_and]
        refine iff_of_false (fun same => nomatch Except.ok.inj same) ?_
        rintro ⟨noCast, notCalled⟩
        rw [kept.mpr noCast] at called
        exact notCalled called
      · simp only [if_neg called]
        refine ⟨rfl, ?_⟩
        constructor
        · intro same
          have unchanged : withoutCasts (Text.inApostrophes body) = Text.inApostrophes body :=
            Option.some.inj (Except.ok.inj same)
          rw [unchanged] at called
          exact ⟨trivial, kept.mp unchanged, called⟩
        · rintro ⟨_, noCast, _⟩
          exact congrArg (fun t => Except.ok (some t)) (kept.mpr noCast)

/-- A text that speaks of nothing is no default value, a text that ends in the name of a type
loses it, and SQLite loses a text that calls the current time. -/
theorem quoted_defaults_lost :
    (exists stored, normal? (some (Literal.single "null and void".toList)) "VARCHAR"
      (some "20".toList) = some stored ∧
      render .mysql stored "VARCHAR" (some "20".toList) = .ok (some "NULL".toList)) ∧
    (exists stored, normal? (some (Literal.single "a::text".toList)) "VARCHAR" none = some stored ∧
      render .mysql stored "VARCHAR" none ≠ .ok (some (Literal.single "a::text".toList))) ∧
    (exists stored, normal? (some (Literal.single "call now() please".toList)) "TEXT" none =
      some stored ∧
      render .sqlite stored "TEXT" none ≠
        .ok (some (Literal.single "call now() please".toList))) := by
  have listed : "VARCHAR".toList ∈ characterTypes := by decide
  have listedText : "TEXT".toList ∈ characterTypes := by decide
  refine ⟨?_, ?_, ?_⟩
  · rcases quoted_default_kept_iff listed "null and void".toList (some "20".toList) .mysql with
      ⟨stored, read, written, _⟩
    have nothing : DefaultKind.mentionsNull (Literal.single "null and void".toList) = true := by
      decide +kernel
    rw [if_pos nothing] at written
    exact ⟨stored, read, written⟩
  · rcases quoted_default_kept_iff listed "a::text".toList none .mysql with ⟨stored, read, _, kept⟩
    have cast : Phrase.occursAfter (fun _ => textCast) none (Literal.single "a::text".toList) =
        true := by
      decide +kernel
    refine ⟨stored, read, fun same => ?_⟩
    have noCast := (kept.mp same).2.1
    rw [cast] at noCast
    cases noCast
  · rcases quoted_default_kept_iff listedText "call now() please".toList none .sqlite with
      ⟨stored, read, _, kept⟩
    have called : Text.has "now(".toList (Text.lower (Literal.single "call now() please".toList)) =
        true := by
      decide +kernel
    exact ⟨stored, read, fun same => (kept.mp same).2.2 ⟨rfl, called⟩⟩

end Default
end SchemaAtlas
