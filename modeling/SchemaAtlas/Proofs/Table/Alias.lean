import Mathlib.Data.List.Infix
import SchemaAtlas.Literal
import SchemaAtlas.Proofs.Name
import SchemaAtlas.Proofs.Phrase.Replacing
import SchemaAtlas.Table.Alias

namespace SchemaAtlas
namespace Table

open Phrase

/-!
Where types of several words are looked for and cannot be found.

Writing such types as one word goes over the whole text of a definition, literals and comments
included.  Two facts keep it under control.  A single quote is part of no type, and neither is a
backtick, a backslash, a slash or a comma, so the inside of a literal is treated by itself, with its
quotes and backslashes as they are, and so is that of a name in backticks, and what stands behind a
comment or a comma is treated apart from it.  And a word that is followed by no second word of a
type is left alone, whatever the word is; a definition that is put together from words of this kind
changes only inside of its literals.
-/

/-! Words and what divides them. -/

def dividers : List Char :=
  [' ', '\x60', '\'', ',', '(', ')']

/-- The words that follow the first word of a type, and the one that begins a collation. -/
def secondWords : List Text :=
  ["with".toList, "without".toList, "varying".toList, "precision".toList, "collate".toList]

/-- The characters that are part of no type. -/
def barriers : List Char :=
  ['\'', '\\', '/', '\x60', ',']

/-- No type of several words goes on here: the text is empty or begins with a divider, and
neither a second word nor the group of an unlimited type follows. -/
structure Divides (s : Text) : Prop where
  bound : forall c, s.head? = some c -> c ∈ dividers
  words : forall w, w ∈ secondWords -> letters w (Text.trimStart s) = []
  group : forall inside, Text.trimStart s = '(' :: inside ->
    letters "max".toList (Text.trimStart inside) = []

/-- A part of one word: without white space, and without a group. -/
def Solid (t : Text) : Prop :=
  forall c, c ∈ t -> Text.isBlank c = false ∧ c ≠ '('

theorem Divides.apart {s : Text} (divides : Divides s) (word : Text)
    (checked : (dividers.all fun c => word.all fun w => !Text.sameLetter w c) = true) :
    forall c, s.head? = some c -> (word.all fun w => !Text.sameLetter w c) = true :=
  fun c found => List.all_eq_true.mp checked c (divides.bound c found)

/-- The text and the word differ within both of them. -/
def clashes : Text -> Text -> Bool
  | w :: word, c :: t => !Text.sameLetter w c || clashes word t
  | _, _ => false

theorem letters_eq_nil_of_clashes {word t : Text} (clash : clashes word t = true) (rest : Text) :
    letters word (t ++ rest) = [] := by
  induction word generalizing t with
  | nil => cases t <;> cases clash
  | cons w word ih =>
      cases t with
      | nil => cases clash
      | cons c t =>
          rw [List.cons_append, letters, bind_apply, charWhere]
          cases same : Text.sameLetter w c with
          | false => rfl
          | true =>
              have later : clashes word t = true := by simpa [clashes, same] using clash
              rw [if_pos rfl, List.flatMap_singleton]
              exact ih later

/-- A text whose beginning tells that it is no second word, no white space and no group. -/
def leadsOff (t : Text) : Bool :=
  (t.head?.any fun c => !Text.isBlank c && c != '(') && secondWords.all fun w => clashes w t

theorem trimStart_of_leadsOff {t : Text} (leads : leadsOff t = true) (rest : Text) :
    Text.trimStart (t ++ rest) = t ++ rest ∧ forall inside, t ++ rest ≠ '(' :: inside := by
  cases t with
  | nil => cases leads
  | cons c more =>
      simp only [leadsOff, List.head?_cons, Option.any_some, Bool.and_eq_true, Bool.not_eq_true',
        bne_iff_ne] at leads
      refine ⟨Text.dropWhile_of_head (Text.fails_at_head c (more ++ rest) leads.1.1), ?_⟩
      intro inside equal
      exact leads.1.2 (List.cons.inj equal).1

/-- Such a text behind a space. -/
theorem divides_space {t : Text} (leads : leadsOff t = true) (rest : Text) :
    Divides (' ' :: (t ++ rest)) := by
  rcases trimStart_of_leadsOff leads rest with ⟨bare, ungrouped⟩
  have trimmed : Text.trimStart (' ' :: (t ++ rest)) = t ++ rest := bare
  have apart := List.all_eq_true.mp (Bool.and_eq_true_iff.mp leads).2
  refine ⟨?_, ?_, ?_⟩
  · intro c found
    cases found
    decide
  · intro w listed
    rw [trimmed]
    exact letters_eq_nil_of_clashes (apart w listed) rest
  · intro inside equal
    exact absurd (trimmed.symm.trans equal) (ungrouped inside)

/-- Such a text by itself, where it begins with a divider. -/
theorem divides_mark {c : Char} (listed : c ∈ dividers) (leads : leadsOff [c] = true)
    (rest : Text) : Divides (c :: rest) := by
  rcases trimStart_of_leadsOff leads rest with ⟨bare, ungrouped⟩
  have apart := List.all_eq_true.mp (Bool.and_eq_true_iff.mp leads).2
  refine ⟨?_, ?_, ?_⟩
  · intro d found
    cases found
    exact listed
  · intro w inList
    exact bare ▸ letters_eq_nil_of_clashes (apart w inList) rest
  · intro inside equal
    exact absurd (bare.symm.trans equal) (ungrouped inside)

/-- A group that does not begin like that of an unlimited type, behind a space or not. -/
theorem divides_group {inside : Text}
    (limited : letters "max".toList (Text.trimStart inside) = []) :
    Divides ('(' :: inside) ∧ Divides (' ' :: '(' :: inside) := by
  have bare : Text.trimStart ('(' :: inside) = '(' :: inside := rfl
  have bareToo : Text.trimStart (' ' :: '(' :: inside) = '(' :: inside := rfl
  have apart : (secondWords.all fun w => clashes w ['(']) = true := by decide
  have words : forall w, w ∈ secondWords -> letters w ('(' :: inside) = [] := fun w listed =>
    letters_eq_nil_of_clashes (List.all_eq_true.mp apart w listed) inside
  have group : forall more, '(' :: inside = '(' :: more ->
      letters "max".toList (Text.trimStart more) = [] := by
    intro more equal
    rw [← (List.cons.inj equal).2]
    exact limited
  constructor
  · refine ⟨?_, fun w listed => bare ▸ words w listed,
      fun more equal => group more (bare.symm.trans equal)⟩
    intro c found
    cases found
    decide
  · refine ⟨?_, fun w listed => bareToo ▸ words w listed,
      fun more equal => group more (bareToo.symm.trans equal)⟩
    intro c found
    cases found
    decide

theorem divides_nil : Divides [] := by
  refine ⟨?_, ?_, ?_⟩
  · intro c found
    cases found
  · intro w listed
    have filled : (secondWords.all fun w => !w.isEmpty) = true := by decide
    have nonempty := List.all_eq_true.mp filled w listed
    cases w with
    | nil => cases nonempty
    | cons c word => rfl
  · intro inside equal
    cases equal

/-- What the phrase of a type of several words has to do with a text: it goes forward, stays in
front of barriers, does not care which character stands before it unless that belongs to a word,
and stands nowhere in divided words.  The label of a key may be any word, also a second one, but
the word before it is the first word of no type. -/
structure IsAlias (p : Option Char -> Phrase Unit) : Prop where
  advances : forall before, Advances (p before)
  halts : forall before {c : Char}, c ∈ barriers -> forall rest, Halts (p before) (c :: rest)
  fresh : forall c, Text.isWordChar c = false -> p (some c) = p none
  absent : forall before {t s : Text}, Solid t -> Divides s -> p before (t ++ s) = []
  unlabelled : forall before {t label : Text}, t <:+ "CONSTRAINT".toList -> Solid label ->
    label ≠ [] ->
    forall rest, p before (t ++ ' ' :: (label ++ (" PRIMARY".toList ++ rest))) = []

/-! The types. -/

theorem wordStart_fresh {c : Char} (outside : Text.isWordChar c = false) :
    wordStart (some c) = wordStart none := by
  funext t
  simp [wordStart, outside]

theorem solid_nil : Solid [] := by
  intro c member
  cases member

/-- A word that no end of the word before a label spells, not even together with
the space behind it. -/
def missesLabels (word : Text) : Bool :=
  "CONSTRAINT".toList.tails.all fun t => clashes word (t ++ [' '])

theorem letters_eq_nil_of_missesLabels {word t : Text} (misses : missesLabels word = true)
    (ending : t <:+ "CONSTRAINT".toList) (rest : Text) : letters word (t ++ ' ' :: rest) = [] := by
  have clash := List.all_eq_true.mp misses t ((List.mem_tails t _).mpr ending)
  have here := letters_eq_nil_of_clashes clash rest
  rwa [List.append_assoc] at here

theorem Solid.of_suffix {t more : Text} (solid : Solid t) (ending : more <:+ t) : Solid more :=
  fun c member => solid c (ending.subset member)

/-- White space and then something that does not follow. -/
theorem blanks1_bind_eq_nil {q : Phrase Unit} {t s : Text} (solid : Solid t)
    (absent : q (Text.trimStart s) = []) : (blanks1 >>= fun _ => q) (t ++ s) = [] := by
  have first : forall {c : Char} {rest : Text}, Text.isBlank c = false ->
      blanks1 (c :: rest) = [] := by
    intro c rest bare
    simp [blanks1, bind_apply, charWhere, bare]
  rw [bind_apply]
  cases t with
  | cons c rest =>
      rw [List.cons_append, first (solid c List.mem_cons_self).1]
      rfl
  | nil =>
      cases s with
      | nil => rfl
      | cons c rest =>
          cases blank : Text.isBlank c with
          | false =>
              rw [List.nil_append, first blank]
              rfl
          | true =>
              have trimmed : Text.trimStart (c :: rest) = Text.trimStart rest := by
                rw [Text.trimStart, List.dropWhile_cons_of_pos blank]
                rfl
              have read : blanks1 (c :: rest) = [((), Text.trimStart rest)] := by
                simp [blanks1, bind_apply, charWhere, blank, blanks]
              rw [List.nil_append, read, List.flatMap_singleton, ← trimmed]
              exact absent

/-- A word and then a second one that does not follow. -/
theorem keyword_bind_eq_nil {word : Text} {q : Phrase Unit} {t s : Text} (solid : Solid t)
    (apart : forall c, s.head? = some c -> (word.all fun w => !Text.sameLetter w c) = true)
    (absent : q (Text.trimStart s) = []) : (keyword word >>= fun _ => q) (t ++ s) = [] := by
  rw [bind_apply, List.flatMap_eq_nil_iff]
  intro reading member
  rcases List.mem_flatMap.mp member with ⟨middle, first, second⟩
  rcases (halts_letters apart).exists_end (advances_letters word) first with ⟨more, ending, behind⟩
  have later := blanks1_bind_eq_nil (solid.of_suffix ending) absent
  rw [bind_apply, List.flatMap_eq_nil_iff] at later
  exact later reading (behind ▸ second)

theorem advances_wordsPhrase (ws : List Text) : Advances (wordsPhrase ws) := by
  induction ws with
  | nil => exact advances_give ()
  | cons w ws ih =>
      cases ws with
      | nil => exact advances_letters w
      | cons next ws => exact (advances_keyword w).bind fun _ => ih

def avoidsBarriers (word : Text) : Bool :=
  barriers.all fun c => word.all fun w => !Text.sameLetter w c

section Barriers

variable {c : Char} (listed : c ∈ barriers) (rest : Text)

include listed

theorem halts_letters_barrier {word : Text} (clear : avoidsBarriers word = true) :
    Halts (letters word) (c :: rest) := by
  apply halts_letters
  intro d found
  cases found
  exact List.all_eq_true.mp clear c listed

theorem barrier_not_blank : forall d, (c :: rest).head? = some d -> Text.isBlank d = false := by
  have solid : (barriers.all fun c => !Text.isBlank c) = true := by decide
  exact Text.fails_at_head c rest (by simpa using List.all_eq_true.mp solid c listed)

theorem isWordChar_of_barrier : Text.isWordChar c = false := by
  have outside : (barriers.all fun c => !Text.isWordChar c) = true := by decide
  simpa using List.all_eq_true.mp outside c listed

/-- A barrier is no white space and part of no word. -/
theorem halts_wordsPhrase {ws : List Text} (clear : ws.all avoidsBarriers = true) :
    Halts (wordsPhrase ws) (c :: rest) := by
  have bare := barrier_not_blank listed rest
  induction ws with
  | nil => exact halts_give ()
  | cons w ws ih =>
      have parts := Bool.and_eq_true_iff.mp clear
      have word := halts_letters_barrier listed rest parts.1
      cases ws with
      | nil => exact word
      | cons next ws => exact (word.bind fun _ => halts_blanks1 bare).bind fun _ => ih parts.2

end Barriers

theorem wordStart_bind_eq_nil {q : Phrase Unit} (before : Option Char) {t : Text}
    (absent : q t = []) : (wordStart before >>= fun _ => q) t = [] := by
  rw [bind_apply, wordStart]
  split
  · rfl
  · rw [List.flatMap_singleton]
    exact absent

/-- A type of several words, of which the first two are given. -/
theorem isAlias_wholeWords {first second : Text} (others : List Text)
    (listed : second ∈ secondWords)
    (checked : (dividers.all fun c => first.all fun w => !Text.sameLetter w c) = true)
    (unlabelled : missesLabels first = true)
    (clear : (first :: second :: others).all avoidsBarriers = true) :
    IsAlias (wholeWords (first :: second :: others)) where
  advances before :=
    (advances_wordStart before).bind fun _ =>
      (advances_wordsPhrase _).bind fun _ => advances_wordEnd
  halts before _ inBarriers rest :=
    (halts_wordStart before).bind fun _ => (halts_wordsPhrase inBarriers rest clear).bind fun _ =>
      halts_wordEnd (Text.fails_at_head _ rest (isWordChar_of_barrier inBarriers))
  fresh c outside := by rw [wholeWords, wholeWords, wordStart_fresh outside]
  absent before t s solid divides := by
    have unfollowed : wordsPhrase (second :: others) (Text.trimStart s) = [] := by
      have none := divides.words second listed
      cases others with
      | nil => exact none
      | cons next others => simp only [wordsPhrase, keyword, bind_apply, none, List.flatMap_nil]
    have words : wordsPhrase (first :: second :: others) (t ++ s) = [] :=
      keyword_bind_eq_nil solid (divides.apart first checked) unfollowed
    have behind : (wordsPhrase (first :: second :: others) >>= fun _ => wordEnd) (t ++ s) = [] := by
      rw [bind_apply, words]
      rfl
    exact wordStart_bind_eq_nil before behind
  unlabelled before t label ending _ _ rest := by
    have first := letters_eq_nil_of_missesLabels unlabelled ending
      (label ++ (" PRIMARY".toList ++ rest))
    apply wordStart_bind_eq_nil
    simp only [wordsPhrase, keyword, bind_apply, first, List.flatMap_nil]

/-- The group of an unlimited type. -/
theorem group_eq_nil {q : Phrase Unit} {t s : Text} (solid : Solid t) (divides : Divides s) :
    (do Phrase.blanks; Phrase.char '('; Phrase.blanks; Phrase.letters "max".toList; q : Phrase Unit)
      (t ++ s) = [] := by
  rw [bind_apply, blanks, List.flatMap_singleton, bind_apply, char, bind_apply]
  cases t with
  | cons c rest =>
      have trimmed : Text.trimStart (c :: (rest ++ s)) = c :: (rest ++ s) :=
        Text.dropWhile_of_head (Text.fails_at_head c _ (solid c List.mem_cons_self).1)
      have other := (solid c List.mem_cons_self).2
      simp [trimmed, charWhere, other]
  | nil =>
      rw [List.nil_append]
      cases trimmed : Text.trimStart s with
      | nil => rfl
      | cons c inside =>
          by_cases opens : c = '('
          · subst opens
            have none := divides.group inside trimmed
            have opening : charWhere (· == '(') ('(' :: inside) = [('(', inside)] := rfl
            rw [opening, List.flatMap_singleton, give, List.flatMap_singleton, bind_apply, blanks,
              List.flatMap_singleton, bind_apply, none]
            rfl
          · simp [charWhere, opens]

theorem isAlias_unlimitedText : IsAlias unlimitedText where
  advances before :=
    ((advances_char '[').either (advances_wordStart before)).bind fun _ =>
      (advances_letters ['n']).optional.bind fun _ => (advances_letters _).bind fun _ =>
        (advances_char ']').optional.bind fun _ =>
          advances_blanks.bind fun _ => (advances_char '(').bind fun _ =>
          advances_blanks.bind fun _ =>
            (advances_letters _).bind fun _ => advances_blanks.bind fun _ =>
            advances_char ')'
  halts before c inBarriers rest := by
    have bare := barrier_not_blank inBarriers rest
    have word : forall {word : Text},
        avoidsBarriers word = true -> Halts (letters word) (c :: rest) :=
      halts_letters_barrier inBarriers rest
    have mark : forall d, d ∉ barriers -> Halts (char d) (c :: rest) := by
      intro d outside
      apply halts_char
      rintro e found rfl
      cases found
      exact outside inBarriers
    exact ((mark '[' (by decide)).either (halts_wordStart before)).bind fun _ =>
      (word (by decide : avoidsBarriers ['n'] = true)).optional.bind fun _ =>
        (word (by decide)).bind fun _ =>
        (mark ']' (by decide)).optional.bind fun _ =>
          (halts_blanks bare).bind fun _ => (mark '(' (by decide)).bind fun _ =>
          (halts_blanks bare).bind fun _ => (word (by decide)).bind fun _ =>
            (halts_blanks bare).bind fun _ =>
            mark ')' (by decide)
  fresh c outside := by rw [unlimitedText, unlimitedText, wordStart_fresh outside]
  absent before t s solid divides := by
    have mark : forall d, d ∉ dividers -> Halts (char d) s := by
      intro d outside
      apply halts_char
      rintro c found rfl
      exact outside (divides.bound c found)
    refine bind_eq_nil_of_halts ((mark '[' (by decide)).either (halts_wordStart before))
      ((advances_char '[').either (advances_wordStart before)) fun t₁ end₁ => ?_
    refine bind_eq_nil_of_halts (halts_letters (divides.apart ['n'] (by decide))).optional
      (advances_letters ['n']).optional fun t₂ end₂ => ?_
    refine bind_eq_nil_of_halts (halts_letters (divides.apart _ (by decide))) (advances_letters _)
      fun t₃ end₃ => ?_
    refine bind_eq_nil_of_halts (mark ']' (by decide)).optional (advances_char ']').optional
      fun t₄ end₄ => ?_
    exact group_eq_nil (solid.of_suffix (end₄.trans (end₃.trans (end₂.trans end₁)))) divides
  unlabelled before t label ending _ _ rest := by
    have space : forall d, ' ' ≠ d ->
        Halts (char d) (' ' :: (label ++ (" PRIMARY".toList ++ rest))) := by
      intro d other
      apply halts_char
      intro c found
      cases found
      exact other
    have letter : Halts (letters ['n']) (' ' :: (label ++ (" PRIMARY".toList ++ rest))) := by
      apply halts_letters
      intro c found
      cases found
      decide
    refine bind_eq_nil_of_halts ((space '[' (by decide)).either (halts_wordStart before))
      ((advances_char '[').either (advances_wordStart before)) fun t₁ end₁ => ?_
    refine bind_eq_nil_of_halts letter.optional (advances_letters ['n']).optional fun t₂ end₂ => ?_
    have misses : missesLabels "varchar".toList = true := by decide
    have varchar := letters_eq_nil_of_missesLabels misses (end₂.trans (end₁.trans ending))
      (label ++ (" PRIMARY".toList ++ rest))
    rw [bind_apply, varchar]
    rfl

theorem isAlias_defaultCollation : IsAlias fun _ => defaultCollation where
  advances _ := advances_blanks1.bind fun _ => (advances_keyword _).bind fun _ => advances_letters _
  halts _ _ inBarriers rest := by
    have bare := barrier_not_blank inBarriers rest
    exact (halts_blanks1 bare).bind fun _ =>
      ((halts_letters_barrier inBarriers rest (by decide)).bind fun _ => halts_blanks1 bare).bind
        fun _ =>
        halts_letters_barrier inBarriers rest (by decide)
  fresh _ _ := rfl
  absent _ t s solid divides := by
    have none := divides.words "collate".toList (by decide)
    apply blanks1_bind_eq_nil solid
    rw [bind_apply, keyword, bind_apply, none]
    rfl
  unlabelled _ t label ending solid nonempty rest := by
    -- the label itself may be the first word of a collation, but then no collation follows
    have divides : Divides (" PRIMARY".toList ++ rest) :=
      divides_space (t := "PRIMARY".toList) (by decide) rest
    have trimmed : Text.trimStart (' ' :: (label ++ (" PRIMARY".toList ++ rest))) =
        label ++ (" PRIMARY".toList ++ rest) := by
      cases label with
      | nil => exact absurd rfl nonempty
      | cons c more =>
          exact Text.dropWhile_of_head (Text.fails_at_head c _ (solid c List.mem_cons_self).1)
    have word : Solid t := by
      have all : ("CONSTRAINT".toList.all fun c => !Text.isBlank c && c != '(') = true := by decide
      intro c member
      simpa using List.all_eq_true.mp all c (ending.subset member)
    apply blanks1_bind_eq_nil word
    rw [trimmed]
    apply keyword_bind_eq_nil solid (divides.apart _ (by decide))
    exact letters_eq_nil_of_clashes (t := "PRIMARY".toList) (by decide) rest

/-- The types of several words with what is written for them, in the order in
which they are looked for. -/
def aliases : List ((Option Char -> Phrase Unit) × Text) :=
  [(wholeWords ["timestamp", "with", "time", "zone"], "TIMESTAMPTZ"),
   (wholeWords ["timestamp", "without", "time", "zone"], "TIMESTAMP"),
   (wholeWords ["character", "varying"], "VARCHAR"),
   (wholeWords ["double", "precision"], "DOUBLE"),
   (unlimitedText, "TEXT"),
   (fun _ => defaultCollation, [])]

theorem unifyTypes_eq_foldl (t : Text) :
    unifyTypes t = aliases.foldl (fun t entry => replaceAll entry.1 entry.2 t) t :=
  rfl

theorem isAlias_of_mem {entry : (Option Char -> Phrase Unit) × Text} (listed : entry ∈ aliases) :
    IsAlias entry.1 := by
  simp only [aliases, List.mem_cons, List.not_mem_nil, or_false] at listed
  rcases listed with rfl | rfl | rfl | rfl | rfl | rfl
  · exact isAlias_wholeWords _ (by decide) (by decide) (by decide) (by decide)
  · exact isAlias_wholeWords _ (by decide) (by decide) (by decide) (by decide)
  · exact isAlias_wholeWords _ (by decide) (by decide) (by decide) (by decide)
  · exact isAlias_wholeWords _ (by decide) (by decide) (by decide) (by decide)
  · exact isAlias_unlimitedText
  · exact isAlias_defaultCollation

/-! What is left of a text. -/

/-- A treatment of texts that leaves words and dividers alone and treats the inside of a literal
or of a name in backticks by itself. -/
structure KeepsWords (f : Text -> Text) : Prop where
  nil : f [] = []
  word : forall {t s : Text}, Solid t -> Divides s -> f (t ++ s) = t ++ f s
  divider : forall {c : Char} {rest : Text}, Divides (c :: rest) -> f (c :: rest) = c :: f rest
  literal : forall t rest, f (Literal.single t ++ rest) = Literal.single (f t) ++ f rest
  backticked : forall t rest, f (Name.backticked t ++ rest) = Name.backticked (f t) ++ f rest
  labelled : forall {label : Text}, Solid label -> label ≠ [] -> forall rest,
    f ("CONSTRAINT".toList ++ ' ' :: (label ++ (" PRIMARY".toList ++ rest))) =
      "CONSTRAINT".toList ++ ' ' :: (label ++ f (" PRIMARY".toList ++ rest))
  plain : forall {t : Text}, '\\' ∉ t -> '\\' ∉ f t
  escaped : forall t, f (Text.double '\\' t) = Text.double '\\' (f t)

theorem isWordChar_of_divider {c : Char} (listed : c ∈ dividers) : Text.isWordChar c = false := by
  have outside : (dividers.all fun c => !Text.isWordChar c) = true := by decide
  simpa using List.all_eq_true.mp outside c listed

section KeepsWords

variable {p : Option Char -> Phrase Unit} (isAlias : IsAlias p) {replacement : Text}

include isAlias

theorem replaceAfter_divider {before : Option Char} {c : Char} {rest : Text}
    (divides : Divides (c :: rest)) :
    replaceAfter p replacement before (c :: rest) = c :: replaceAll p replacement rest := by
  have absent : p before (c :: rest) = [] := isAlias.absent before solid_nil divides
  have outside := isWordChar_of_divider (divides.bound c rfl)
  rw [replaceAfter_of_eq_nil absent, replaceAfter_congr (isAlias.fresh c outside)]
  rfl

theorem replaceAfter_word {t s : Text} (solid : Solid t) (divides : Divides s)
    (before : Option Char) :
    replaceAfter p replacement before (t ++ s) = t ++ replaceAll p replacement s := by
  induction t generalizing before with
  | nil =>
      cases s with
      | nil => rw [List.nil_append, List.nil_append, replaceAll, replaceAfter, replaceAfter]
      | cons c rest =>
          rw [List.nil_append, List.nil_append, replaceAll, replaceAfter_divider isAlias divides,
            replaceAfter_divider isAlias divides]
  | cons c t ih =>
      have absent := isAlias.absent before solid divides
      rw [List.cons_append] at absent ⊢
      rw [replaceAfter_of_eq_nil absent, ih fun d member => solid d (List.mem_cons_of_mem c member)]
      rfl

/-- What stands before a barrier and what stands behind are treated one by one. -/
theorem replaceAll_append_barrier {c : Char} (listed : c ∈ barriers) (t rest : Text) :
    replaceAll p replacement (t ++ c :: rest) = replaceAll p replacement t ++
      c :: replaceAll p replacement rest := by
  have absent : forall before, p before (c :: rest) = [] := by
    intro before
    have nothing : p before [] = [] := isAlias.absent before solid_nil divides_nil
    have here := isAlias.halts before listed rest []
    rwa [nothing] at here
  rw [replaceAll, replaceAfter_append (fun before => isAlias.halts before listed rest) absent,
    replaceAfter_congr (isAlias.fresh c (isWordChar_of_barrier listed))]
  rfl

theorem not_mem_replaceAll {c : Char} (outside : c ∉ replacement) {t : Text} (absent : c ∉ t) :
    c ∉ replaceAll p replacement t := by
  intro member
  rcases mem_replaceAfter isAlias.advances member with inReplacement | inText
  · exact outside inReplacement
  · exact absent inText

/-- Barriers that are written twice stay as they are. -/
theorem replaceAll_double {q : Char} (listed : q ∈ barriers) (outside : q ∉ replacement)
    (t : Text) :
    replaceAll p replacement (Text.double q t) = Text.double q (replaceAll p replacement t) := by
  induction size : t.length using Nat.strong_induction_on generalizing t with
  | _ size ih =>
  subst size
  by_cases member : q ∈ t
  · rcases List.eq_append_cons_of_mem member with ⟨front, behind, rfl, free⟩
    have later := ih behind.length
      (by simp only [List.length_append, List.length_cons]; omega) behind rfl
    have doubled : forall first second : Text, q ∉ first ->
        Text.double q (first ++ q :: second) = first ++ q :: (q :: Text.double q second) := by
      intro first second absent
      rw [Text.double, List.flatMap_append, ← Text.double, Text.double_of_not_mem absent]
      simp [Text.double]
    have pair : replaceAll p replacement (q :: Text.double q behind) =
        q :: replaceAll p replacement (Text.double q behind) := by
      have none : replaceAll p replacement [] = [] := by rw [replaceAll, replaceAfter]
      refine (replaceAll_append_barrier isAlias listed [] (Text.double q behind)).trans ?_
      rw [none]
      rfl
    rw [doubled front behind free, replaceAll_append_barrier isAlias listed, pair, later,
      replaceAll_append_barrier isAlias listed,
        doubled _ _ (not_mem_replaceAll isAlias outside free)]
  · rw [Text.double_of_not_mem member,
      Text.double_of_not_mem (not_mem_replaceAll isAlias outside member)]

/-- A text between two barriers of one kind is treated by itself. -/
theorem replaceAll_quoted {q : Char} (listed : q ∈ barriers) (divider : q ∈ dividers)
    (leads : leadsOff [q] = true) (outside : q ∉ replacement) (t rest : Text) :
    replaceAll p replacement (q :: Text.double q t ++ [q] ++ rest) =
      q :: Text.double q (replaceAll p replacement t) ++ [q] ++ replaceAll p replacement rest := by
  have opening : Divides (q :: (Text.double q t ++ q :: rest)) := divides_mark divider leads _
  have text : q :: Text.double q t ++ [q] ++ rest = q :: (Text.double q t ++ q :: rest) := by simp
  rw [text, replaceAll, replaceAfter_divider isAlias opening,
    replaceAll_append_barrier isAlias listed, replaceAll_double isAlias listed outside]
  simp

theorem replaceAfter_labelled {label : Text} (solid : Solid label) (nonempty : label ≠ [])
    (rest : Text) {t : Text} (ending : t <:+ "CONSTRAINT".toList) (before : Option Char) :
    replaceAfter p replacement before (t ++ ' ' :: (label ++ (" PRIMARY".toList ++ rest))) =
      t ++ ' ' :: (label ++ replaceAll p replacement (" PRIMARY".toList ++ rest)) := by
  have divides : Divides (" PRIMARY".toList ++ rest) :=
    divides_space (t := "PRIMARY".toList) (by decide) rest
  induction t generalizing before with
  | nil =>
      have absent := isAlias.unlabelled before ending solid nonempty rest
      rw [List.nil_append, List.nil_append] at *
      rw [replaceAfter_of_eq_nil absent, replaceAfter_word isAlias solid divides]
  | cons c t ih =>
      have absent := isAlias.unlabelled before ending solid nonempty rest
      rw [List.cons_append] at absent ⊢
      rw [replaceAfter_of_eq_nil absent, ih ((List.suffix_cons c t).trans ending)]
      rfl

theorem keepsWords_replaceAll (noQuote : '\'' ∉ replacement) (noBacktick : '\x60' ∉ replacement)
    (noBackslash : '\\' ∉ replacement) : KeepsWords (replaceAll p replacement) where
  nil := by rw [replaceAll, replaceAfter]
  word solid divides := replaceAfter_word isAlias solid divides none
  divider divides := replaceAfter_divider isAlias divides
  literal t rest := replaceAll_quoted isAlias (by decide) (by decide) (by decide) noQuote t rest
  backticked t rest := replaceAll_quoted isAlias (by decide) (by decide)
    (by decide) noBacktick t rest
  labelled solid nonempty rest :=
    replaceAfter_labelled isAlias solid nonempty rest List.suffix_rfl none
  plain absent := not_mem_replaceAll isAlias noBackslash absent
  escaped t := replaceAll_double isAlias (by decide) noBackslash t

end KeepsWords

theorem keepsWords_of_mem {entry : (Option Char -> Phrase Unit) × Text} (listed : entry ∈ aliases) :
    KeepsWords (replaceAll entry.1 entry.2) := by
  have free : (aliases.all fun entry =>
      !entry.2.contains '\'' && !entry.2.contains '\x60' && !entry.2.contains '\\') =
        true := by decide
  have parts := List.all_eq_true.mp free entry listed
  simp only [Bool.and_eq_true, Bool.not_eq_true', List.contains_eq_mem,
    decide_eq_false_iff_not] at parts
  exact keepsWords_replaceAll (isAlias_of_mem listed) parts.1.1 parts.1.2 parts.2

/-- A text that is made from literals, and of which every such treatment reaches only the
literals, is unified literal by literal. -/
theorem unifyTypes_of_keepsWords {frame : (Text -> Text) -> Text}
    (framed : forall f g, KeepsWords f -> f (frame g) = frame fun t => f (g t)) :
    unifyTypes (frame id) = frame unifyTypes := by
  have each : forall (entries : List ((Option Char -> Phrase Unit) × Text)),
      (forall entry, entry ∈ entries -> entry ∈ aliases) -> forall g,
      entries.foldl (fun t entry => replaceAll entry.1 entry.2 t) (frame g) =
        frame fun t => entries.foldl (fun t entry => replaceAll entry.1 entry.2 t) (g t) := by
    intro entries
    induction entries with
    | nil => exact fun _ _ => rfl
    | cons entry entries ih =>
        intro listed g
        rw [List.foldl_cons, framed _ g (keepsWords_of_mem (listed entry List.mem_cons_self))]
        exact ih (fun other member => listed other (List.mem_cons_of_mem entry member)) _
  rw [unifyTypes_eq_foldl]
  exact each aliases (fun _ listed => listed) id

theorem not_mem_unifyTypes {t : Text} (plain : '\\' ∉ t) : '\\' ∉ unifyTypes t := by
  rw [unifyTypes_eq_foldl]
  exact List.foldlRecOn (motive := fun t => '\\' ∉ t) aliases _ plain fun _ free _ listed =>
    (keepsWords_of_mem listed).plain free

/-- What stands before a barrier and what stands behind are written one by one. -/
theorem unifyTypes_append_barrier {c : Char} (listed : c ∈ barriers) (t rest : Text) :
    unifyTypes (t ++ c :: rest) = unifyTypes t ++ c :: unifyTypes rest := by
  have each : forall entries : List ((Option Char -> Phrase Unit) × Text),
      (forall entry, entry ∈ entries -> IsAlias entry.1) -> forall t rest : Text,
      entries.foldl (fun t entry => replaceAll entry.1 entry.2 t) (t ++ c :: rest) =
        entries.foldl (fun t entry => replaceAll entry.1 entry.2 t) t ++
          c :: entries.foldl (fun t entry => replaceAll entry.1 entry.2 t) rest := by
    intro entries
    induction entries with
    | nil => exact fun _ t rest => rfl
    | cons entry entries ih =>
        intro areAliases t rest
        rw [List.foldl_cons, replaceAll_append_barrier (areAliases entry List.mem_cons_self) listed]
        exact ih (fun other member => areAliases other (List.mem_cons_of_mem entry member)) _ _
  exact each aliases (fun _ member => isAlias_of_mem member) t rest

/-- What each of the types is written inside of stays around the whole. -/
theorem unifyTypes_of_each {frame : Text -> Text}
    (each : forall entry, entry ∈ aliases -> forall t,
      replaceAll entry.1 entry.2 (frame t) = frame (replaceAll entry.1 entry.2 t)) (t : Text) :
    unifyTypes (frame t) = frame (unifyTypes t) := by
  rw [unifyTypes_eq_foldl, unifyTypes_eq_foldl]
  apply List.foldl_rel (r := fun s t => s = frame t) rfl
  intro entry listed s t same
  rw [same, each entry listed]

/-- Backslashes that are written twice stay as they are. -/
theorem unifyTypes_double (t : Text) :
    unifyTypes (Text.double '\\' t) = Text.double '\\' (unifyTypes t) :=
  unifyTypes_of_each (fun _ listed => (keepsWords_of_mem listed).escaped) t

/-! Groups, whatever stands in them. -/

/-- The marks in front of what stands in a group. -/
def groupMarks : List Char :=
  [' ', '(']

theorem letters_eq_nil_of_groupMark {word : Text}
    (clash : (groupMarks.all fun c => clashes word [c]) = true) {c : Char} (listed : c ∈ groupMarks)
    (rest : Text) : letters word (c :: rest) = [] :=
  letters_eq_nil_of_clashes (List.all_eq_true.mp clash c listed) rest

theorem wholeWords_eq_nil {first t : Text} (absent : letters first t = []) (second : Text)
    (others : List Text) (before : Option Char) :
    wholeWords (first :: second :: others) before t = [] := by
  apply wordStart_bind_eq_nil
  have words : wordsPhrase (first :: second :: others) t = [] := by
    simp only [wordsPhrase, keyword, bind_apply, absent, List.flatMap_nil]
  rw [bind_apply, words, List.flatMap_nil]

theorem unlimitedText_eq_nil {c : Char} (listed : c ∈ groupMarks) (rest : Text)
    (before : Option Char) : unlimitedText before (c :: rest) = [] := by
  have outside : (groupMarks.all fun c => c != '[' && !Text.sameLetter 'n' c) = true := by decide
  have parts := List.all_eq_true.mp outside c listed
  have bracket : Halts (char '[') (c :: rest) := by
    apply halts_char
    intro d found
    cases found
    simpa using (Bool.and_eq_true_iff.mp parts).1
  have letter : Halts (letters ['n']) (c :: rest) := by
    apply halts_letters
    intro d found
    cases found
    simpa using (Bool.and_eq_true_iff.mp parts).2
  have word := letters_eq_nil_of_groupMark
    (by decide : (groupMarks.all fun c => clashes "varchar".toList [c]) = true)
    listed rest
  rw [← List.nil_append (c :: rest)]
  refine bind_eq_nil_of_halts (bracket.either (halts_wordStart before))
    ((advances_char '[').either (advances_wordStart before)) fun t₁ end₁ => ?_
  refine bind_eq_nil_of_halts letter.optional (advances_letters ['n']).optional fun t₂ end₂ => ?_
  obtain rfl : t₂ = [] := List.suffix_nil.mp (end₂.trans end₁)
  rw [List.nil_append, bind_apply, word]
  rfl

/-- No type of several words begins in front of a group. -/
theorem eq_nil_of_group {entry : (Option Char -> Phrase Unit) × Text} (listed : entry ∈ aliases)
    (before : Option Char) (inside : Text) :
    entry.1 before ('(' :: inside) = [] ∧ entry.1 before (' ' :: '(' :: inside) = [] := by
  have words : forall {first second : Text} {others : List Text},
      (groupMarks.all fun c => clashes first [c]) = true ->
      wholeWords (first :: second :: others) before ('(' :: inside) = [] ∧
        wholeWords (first :: second :: others) before (' ' :: '(' :: inside) = [] := by
    intro first second others clash
    have absent := fun {c : Char} (listed : c ∈ groupMarks) rest =>
      letters_eq_nil_of_groupMark clash listed rest
    exact ⟨wholeWords_eq_nil (absent (by decide) _) _ _ before,
      wholeWords_eq_nil (absent (by decide) _) _ _ before⟩
  have collate : keyword "collate".toList ('(' :: inside) = [] :=
    keyword_eq_nil (by decide) _ _
  simp only [aliases, List.mem_cons, List.not_mem_nil, or_false] at listed
  rcases listed with rfl | rfl | rfl | rfl | rfl | rfl
  · exact words (by decide)
  · exact words (by decide)
  · exact words (by decide)
  · exact words (by decide)
  · exact ⟨unlimitedText_eq_nil (by decide) _ before, unlimitedText_eq_nil (by decide) _ before⟩
  · have absent : (keyword "collate".toList >>= fun _ => letters "pg_catalog.\"default\"".toList)
        ('(' :: inside) = [] := by
      rw [bind_apply, collate]
      rfl
    exact ⟨blanks1_bind_eq_nil solid_nil absent, blanks1_bind_eq_nil solid_nil absent⟩

/-- What stands in a group is written by itself, and so is what stands behind. -/
theorem unifyTypes_group (inside : Text) :
    unifyTypes (' ' :: '(' :: inside) = ' ' :: '(' :: unifyTypes inside := by
  refine @unifyTypes_of_each (fun t => ' ' :: '(' :: t) (fun entry listed t => ?_) inside
  have fresh := (isAlias_of_mem listed).fresh '(' (by decide)
  rw [replaceAll, replaceAfter_of_eq_nil (eq_nil_of_group listed none t).2,
    replaceAfter_of_eq_nil (eq_nil_of_group listed (some ' ') t).1, replaceAfter_congr fresh]
  rfl

end Table
end SchemaAtlas
