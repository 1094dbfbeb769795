import SchemaAtlas.Proofs.Default.Whole
import SchemaAtlas.Proofs.Phrase.Search

namespace SchemaAtlas

/-!
Stored default values, read again.

A default value is stored in the form in which it was read, so reading it again must change nothing:
a table that is read from its own output would drift away otherwise.  Each kind writes a text of its
own, and most of these texts are of another kind than the one they come from: a number comes back as
a literal, and a date in double quotes as one in single quotes.  So what is shown of each written
text is that it is settled, whatever its kind is by then.
-/

namespace Phrase

variable {α : Type} {p : Option Char -> Phrase α}

/-- A beginning that a phrase does not touch does not matter if what follows it is read as
at the start of a text. -/
theorem occursAfter_append_of_nil
    {front : Text} (absent : forall before c rest, c ∈ front -> p before (c :: rest) = [])
    (fresh : forall c, c ∈ front -> p (some c) = p none) (t : Text) :
    occursAfter p none (front ++ t) = occursAfter p none t := by
  have congr : forall {first second : Option Char}, p first = p second -> forall t : Text,
      occursAfter p first t = occursAfter p second t := by
    intro first second same t
    cases t with
    | nil => simp only [occursAfter, same]
    | cons c rest => simp only [occursAfter, same]
  induction front with
  | nil => rfl
  | cons c rest ih =>
      have later :=
        ih (fun before d more member => absent before d more (List.mem_cons_of_mem c member))
        fun d member => fresh d (List.mem_cons_of_mem c member)
      rw [List.cons_append, occursAfter, holds, absent none c _ List.mem_cons_self,
        congr (fresh c List.mem_cons_self), later]
      rfl

/-- Neither does an end into which no reading goes and in which none begins. -/
theorem occursAfter_append_of_halts {behind : Text} (halts : forall before, Halts (p before) behind)
    (absent : forall before, p before [] = [])
    (nowhere : forall before, occursAfter p before behind = false) (before : Option Char)
    (t : Text) : occursAfter p before (t ++ behind) = occursAfter p before t := by
  induction t generalizing before with
  | nil =>
      rw [List.nil_append, nowhere, occursAfter, holds, absent]
      rfl
  | cons c rest ih =>
      have here : holds (p before) (c :: (rest ++ behind)) = holds (p before) (c :: rest) := by
        rw [holds, holds, ← List.cons_append, halts before, List.isEmpty_map]
      rw [List.cons_append, occursAfter, here, ih, occursAfter]

end Phrase

namespace Literal

/-- The enclosing quote stands at both ends. -/
theorem eq_of_enclosingQuote? {t : Text} {q : Char} (enclosed : enclosingQuote? t = some q) :
    isQuote q = true ∧ t = q :: (Name.withoutEnds t ++ [q]) := by
  unfold enclosingQuote? at enclosed
  split at enclosed
  · cases enclosed
  · cases enclosed
  · rename_i c d rest
    split at enclosed
    · rename_i quotes
      obtain rfl : c = q := Option.some.inj enclosed
      simp only [Bool.and_eq_true, beq_iff_eq] at quotes
      have last : (d :: rest).getLast? = some c := by
        rw [← quotes.2, List.getLastD_eq_getLast?, List.getLast?_cons, Option.getD_some]
      exact ⟨quotes.1, congrArg (c :: ·) (List.dropLast_append_getLast? c last).symm⟩
    · cases enclosed

end Literal

namespace Default

/-! The word for nothing between quotes. -/

/-- Quotes at the ends neither make nor hide the word for nothing. -/
theorem mentionsNull_between {front behind : Text}
    (quotesBefore : forall c, c ∈ front -> Literal.isQuote c = true)
    (quotesBehind : forall c, c ∈ behind -> Literal.isQuote c = true) (body : Text) :
    DefaultKind.mentionsNull (front ++ (body ++ behind)) = DefaultKind.mentionsNull body := by
  have facts : forall c, Literal.isQuote c = true ->
      ("null".toList.all fun w => !Text.sameLetter w c) = true ∧ Text.isWordChar c = false := by
    intro c quote
    rcases Bool.or_eq_true_iff.mp quote with single | double
    · rw [beq_iff_eq.mp single]
      decide
    · rw [beq_iff_eq.mp double]
      decide
  have absent : forall quotes : Text, (forall c, c ∈ quotes -> Literal.isQuote c = true) ->
      forall before c rest, c ∈ quotes -> DefaultKind.nullWord before (c :: rest) = [] := by
    intro quotes each before c rest member
    have differs : Text.sameLetter 'n' c = false := by
      simpa using List.all_eq_true.mp (facts c (each c member)).1 'n' (by decide)
    exact nullWord_eq_nil (Phrase.letters_eq_nil differs _ rest)
  have fresh : forall c, c ∈ front ->
      DefaultKind.nullWord (some c) = DefaultKind.nullWord none := by
    intro c member
    have start : Phrase.wordStart (some c) = Phrase.wordStart none := by
      funext t
      simp only [Phrase.wordStart, Option.any_some, (facts c (quotesBefore c member)).2,
        Option.any_none]
    rw [DefaultKind.nullWord, start, DefaultKind.nullWord]
  have halts : forall before, Phrase.Halts (DefaultKind.nullWord before) behind := by
    intro before
    have letters : Phrase.Halts (Phrase.letters "null".toList) behind :=
      Phrase.halts_letters fun c found => (facts c (quotesBehind c (List.mem_of_head? found))).1
    exact (Phrase.halts_wordStart before).bind fun _ => letters.bind fun _ =>
      Phrase.halts_wordEnd fun c found => (facts c (quotesBehind c (List.mem_of_head? found))).2
  have atEnd : forall before, DefaultKind.nullWord before [] = [] :=
    fun before => nullWord_eq_nil rfl
  have nowhere := Phrase.occursAfter_eq_false (absent behind quotesBehind) atEnd
  rw [DefaultKind.mentionsNull, Phrase.occursAfter_append_of_nil (absent front quotesBefore) fresh,
    Phrase.occursAfter_append_of_halts halts atEnd nowhere]
  rfl

theorem mentionsNull_inApostrophes (body : Text) :
    DefaultKind.mentionsNull (Text.inApostrophes body) = DefaultKind.mentionsNull body := by
  have quotes : forall c, c ∈ ['\''] -> Literal.isQuote c = true :=
    List.all_iff_forall_prop.mp (by decide)
  exact mentionsNull_between quotes quotes body

/-! Settled texts. -/

/-- Reading the default value changes nothing. -/
structure Settled (t : Text) : Prop where
  bare : Text.Unpadded t
  nonempty : t ≠ []
  kept : normalOther t = t

def kindWords : List Text :=
  ["NULL", "TRUE", "FALSE"]

theorem settled_of_mem_kindWords {t : Text} (listed : t ∈ kindWords) : Settled t := by
  have facts : forall t, t ∈ kindWords -> Text.Unpadded t ∧ t ≠ [] ∧ normalOther t = t := by
    decide +kernel
  rcases facts t listed with ⟨bare, nonempty, kept⟩
  exact ⟨bare, nonempty, kept⟩

theorem settled_inApostrophes {body : Text} (something : DefaultKind.mentionsNull body = false) :
    Settled (Text.inApostrophes body) := by
  refine ⟨unpadded_inApostrophes body, List.cons_ne_nil _ _, ?_⟩
  rw [normalOther_inApostrophes, mentionsNull_inApostrophes, something]
  rfl

/-- What is put in quotes stands in the text with nothing but quotes around it. -/
theorem exists_requote (t : Text) : exists front inside behind,
    (forall c, c ∈ front ++ behind -> Literal.isQuote c = true) ∧
      Text.trim t = front ++ (inside ++ behind) ∧
      requote t = Text.inApostrophes inside := by
  cases enclosed : Literal.enclosingQuote? (Text.trim t) with
  | some q =>
      rcases Literal.eq_of_enclosingQuote? enclosed with ⟨quote, whole⟩
      refine ⟨[q], Name.withoutEnds (Text.trim t), [q], ?_, whole, ?_⟩
      · intro c member
        obtain rfl : c = q := by simpa using member
        exact quote
      · simp only [requote, enclosed]
  | none =>
      rcases Text.exists_append_trimWhere_append Literal.isQuote (Text.trim t) with
        ⟨front, behind, quotes, whole⟩
      refine ⟨front, _, behind, quotes, whole, ?_⟩
      simp only [requote, enclosed]

/-- A date in quotes is settled, unless the word for nothing stands beside it. -/
theorem settled_requote {t : Text} (something : DefaultKind.mentionsNull (Text.trim t) = false) :
    Settled (requote t) := by
  rcases exists_requote t with ⟨front, inside, behind, quotes, whole, requoted⟩
  have within := mentionsNull_between
    (fun c member => quotes c (List.mem_append_left behind member))
    (fun c member => quotes c (List.mem_append_right front member)) inside
  rw [requoted]
  rw [whole, within] at something
  exact settled_inApostrophes something

/-! The current time. -/

/-- The words by which the current time is named and its renewal is asked for. -/
def clockWords : List Text :=
  ["current_timestamp", "now()", "on", "update", "insert"]

/-- What a spelled word becomes in upper case is one of few words. -/
theorem isWord_of_spells {word spelled : Text} (listed : word ∈ clockWords)
    (same : Phrase.spells word spelled = true) :
    Text.upper spelled ∈ Text.capitalForms word ∧ Text.IsWord (Text.upper spelled) := by
  have ascii : forall word, word ∈ clockWords ->
      (word.all fun w => decide (w.toNat < 0x80)) = true := by decide +kernel
  have facts : forall word, word ∈ clockWords -> forall form, form ∈ Text.capitalForms word ->
      form ≠ [] ∧ (form.all fun c => decide (Text.isBlank c = false)) = true := by decide +kernel
  have letters := List.all_iff_forall_prop.mp (ascii word listed)
  have member := Text.upper_mem_capitalForms letters same
  rcases facts word listed _ member with ⟨nonempty, solid⟩
  exact ⟨member, nonempty, List.all_iff_forall_prop.mp solid⟩

/-- The texts in which the current time is stored. -/
def timeTexts : List Text :=
  Text.capitalForms "current_timestamp" ++ Text.capitalForms "now()" ++
    (Text.capitalForms "current_timestamp").flatMap fun first =>
      (Text.capitalForms "on").flatMap fun word =>
        (Text.capitalForms "update" ++ Text.capitalForms "insert").flatMap fun event =>
          (Text.capitalForms "current_timestamp").map fun last =>
            Text.join [' '] [first, word, event, last]

theorem settled_of_mem_timeTexts {t : Text} (listed : t ∈ timeTexts) : Settled t := by
  have facts : forall t, t ∈ timeTexts -> Text.Unpadded t ∧ t ≠ [] ∧ normalOther t = t := by
    decide +kernel
  rcases facts t listed with ⟨bare, nonempty, kept⟩
  exact ⟨bare, nonempty, kept⟩

/-- The current time by a plain name, in upper case. -/
theorem oneSpaced_of_currentTime {t : Text} (reads : Phrase.holds currentTime t = true) :
    Text.oneSpaced (Text.upper t) ∈ timeTexts := by
  have stored : forall word, word ∈ ["current_timestamp".toList, "now()".toList] ->
      word ∈ clockWords ∧ forall form, form ∈ Text.capitalForms word -> form ∈ timeTexts := by
    decide +kernel
  rcases Phrase.exists_mem_of_holds reads with ⟨reading, member⟩
  rcases List.mem_flatMap.mp member with ⟨middle, inName, ended⟩
  have named : exists word, word ∈ ["current_timestamp".toList, "now()".toList] ∧
      middle ∈ Phrase.letters word t := by
    rcases List.mem_append.mp inName with first | second
    · exact ⟨_, by decide, first⟩
    · exact ⟨_, by decide, second⟩
  rcases named with ⟨word, listed, inWord⟩
  rcases Phrase.exists_spelled_of_mem_letters inWord with ⟨spelled, same, split⟩
  rw [Phrase.eq_nil_of_mem_atEnd ended, List.append_nil] at split
  rcases isWord_of_spells (stored word listed).1 same with ⟨form, isWord⟩
  rw [split, Text.oneSpaced, Text.words_of_isWord isWord, Text.join_singleton]
  exact (stored word listed).2 _ form

/-- The current time with its renewal, in upper case. -/
theorem oneSpaced_of_renewedTime {t : Text} (reads : Phrase.holds renewedTime t = true) :
    Text.oneSpaced (Text.upper t) ∈ timeTexts := by
  rcases Phrase.exists_mem_of_holds reads with ⟨reading, member⟩
  rcases List.mem_flatMap.mp member with ⟨clock, inClock, member⟩
  rcases List.mem_flatMap.mp member with ⟨renewed, inRenewal, ended⟩
  rcases List.mem_flatMap.mp inRenewal with ⟨spaced, inSpace, inRenewal⟩
  rcases List.mem_flatMap.mp inRenewal with ⟨triggered, inTrigger, inRenewal⟩
  rcases List.mem_flatMap.mp inRenewal with ⟨changed, inEvent, inLast⟩
  have named : exists word, word ∈ ["update".toList, "insert".toList] ∧
      changed ∈ Phrase.keyword word triggered.2 := by
    rcases List.mem_append.mp inEvent with first | second
    · exact ⟨_, by decide, first⟩
    · exact ⟨_, by decide, second⟩
  rcases named with ⟨word, listed, inEvent⟩
  rcases Phrase.exists_spelled_of_mem_letters inClock with ⟨first, sameFirst, split⟩
  rcases Phrase.exists_space_of_mem_blanks1 inSpace with ⟨space, filled, blank, splitSpace⟩
  rcases Phrase.exists_spelled_of_mem_keyword inTrigger with
    ⟨trigger, gap, sameTrigger, filledGap, blankGap, splitTrigger⟩
  rcases Phrase.exists_spelled_of_mem_keyword inEvent with
    ⟨event, rest, sameEvent, filledRest, blankRest, splitEvent⟩
  rcases Phrase.exists_spelled_of_mem_letters inLast with ⟨last, sameLast, splitLast⟩
  rw [Phrase.eq_nil_of_mem_atEnd ended, List.append_nil] at splitLast
  have among : word ∈ clockWords := by
    have facts : forall word, word ∈ ["update".toList, "insert".toList] ->
      word ∈ clockWords := by decide
    exact facts word listed
  rcases isWord_of_spells (by decide) sameFirst with ⟨formFirst, isFirst⟩
  rcases isWord_of_spells (by decide) sameTrigger with ⟨formTrigger, isTrigger⟩
  rcases isWord_of_spells among sameEvent with ⟨formEvent, isEvent⟩
  rcases isWord_of_spells (by decide) sameLast with ⟨formLast, isLast⟩
  have words : Text.words (Text.upper t) =
      [Text.upper first, Text.upper trigger, Text.upper event, Text.upper last] := by
    rw [split, splitSpace, splitTrigger, splitEvent, splitLast]
    simp only [Text.upper_append, Text.upper_of_blank blank, Text.upper_of_blank blankGap,
      Text.upper_of_blank blankRest, Text.words_append isFirst filled blank,
      Text.words_append isTrigger filledGap blankGap,
      Text.words_append isEvent filledRest blankRest, Text.words_of_isWord isLast]
  rw [Text.oneSpaced, words]
  refine List.mem_append_right _
    (List.mem_flatMap.mpr ⟨_, formFirst,
      List.mem_flatMap.mpr ⟨_, formTrigger,
        List.mem_flatMap.mpr ⟨_, ?_, List.mem_map.mpr ⟨_, formLast, rfl⟩⟩⟩⟩)
  rcases List.mem_cons.mp listed with rfl | later
  · exact List.mem_append_left _ formEvent
  · rw [List.mem_singleton.mp later] at formEvent
    exact List.mem_append_right _ formEvent

/-! Reading again. -/

/-- A trimmed text is read as a settled one. -/
theorem settled_normalOther {t : Text} (bare : Text.Unpadded t) (nonempty : t ≠ []) :
    Settled (normalOther t) := by
  have trimmed := Text.trim_of_unpadded bare
  have itself : normalOther t = t -> Settled (normalOther t) := fun same => by
    rw [same]
    exact ⟨bare, nonempty, same⟩
  have something : DefaultKind.ofText t ≠ .null -> DefaultKind.mentionsNull t = false := by
    intro other
    rw [Bool.eq_false_iff]
    intro nothing
    exact other (by rw [DefaultKind.ofText, trimmed, DefaultKind.ofTrimmed, if_pos nothing])
  cases kind : DefaultKind.ofText t with
  | null =>
      have read : normalOther t = "NULL".toList := by rw [normalOther, kind]
      rw [read]
      exact settled_of_mem_kindWords (by decide)
  | number =>
      have read : normalOther t = Text.inApostrophes t := by rw [normalOther, kind]
      rw [read]
      exact settled_inApostrophes (something (by rw [kind]; decide))
  | function =>
      cases timed : Phrase.holds currentTime t || Phrase.holds renewedTime t with
      | true =>
          have read : normalOther t = Text.oneSpaced (Text.upper t) := by
            simp [normalOther, kind, timed]
          rw [read]
          rcases Bool.or_eq_true_iff.mp timed with current | renewed
          · exact settled_of_mem_timeTexts (oneSpaced_of_currentTime current)
          · exact settled_of_mem_timeTexts (oneSpaced_of_renewedTime renewed)
      | false => exact itself (by simp [normalOther, kind, timed])
  | datetime =>
      have read : normalOther t = requote t := by rw [normalOther, kind]
      rw [read]
      exact settled_requote (trimmed.symm ▸ something (by rw [kind]; decide))
  | boolean =>
      have read : normalOther t = "TRUE".toList ∨ normalOther t = "FALSE".toList ∨
          normalOther t = t := by
        simp only [normalOther, kind]
        split
        · exact .inl rfl
        · split
          · exact .inr (.inl rfl)
          · exact .inr (.inr rfl)
      rcases read with yes | no | same
      · rw [yes]
        exact settled_of_mem_kindWords (by decide)
      · rw [no]
        exact settled_of_mem_kindWords (by decide)
      · exact itself same
  | string => exact itself (by rw [normalOther, kind])
  | expression => exact itself (by rw [normalOther, kind])

/-- Whatever the type of the column, what is stored is read as itself. -/
theorem normal?_idempotent (value : Option Text) (base : Text) (length : Option Text) :
    normal? (normal? value base length) base length = normal? value base length := by
  cases value with
  | none => rfl
  | some v =>
      by_cases blank : Text.trim v = []
      · have none : normal? (some v) base length = none := by
          simp only [normal?, Option.map_some, blank]
        rw [none]
        rfl
      · cases truth : TypeText.isBoolean base length with
        | true =>
            have words : forall b, Text.trim (truthWord b) = truthWord b ∧ truthWord b ≠ [] ∧
                isTruthy (truthWord b) = b := by decide
            have read : forall t : Text, Text.trim t ≠ [] ->
                normal? (some t) base length = some (truthWord (isTruthy (Text.trim t))) := by
              intro t filled
              cases trimmed : Text.trim t with
              | nil => exact absurd trimmed filled
              | cons c rest => simp only [normal?, Option.map_some, trimmed, truth, if_true]
            rcases words (isTruthy (Text.trim v)) with ⟨bare, filled, same⟩
            rw [read v blank, read _ (bare.symm ▸ filled), bare, same]
        | false =>
            have settled := settled_normalOther (Text.unpadded_trim v) blank
            rw [normal?_of_trim rfl blank truth,
              normal?_of_trim (Text.trim_of_unpadded settled.bare) settled.nonempty truth,
                settled.kept]

end Default
end SchemaAtlas
