import SchemaAtlas.Insert.Data
import SchemaAtlas.Proofs.Phrase.Search
import SchemaAtlas.Proofs.Table.Alias
import SchemaAtlas.Table.Read

namespace SchemaAtlas

open Phrase

/-!
A comment in front of a definition or an insertion.

Comments are left out where a body is taken apart, but its header is looked for in the text as it
stands.  So a comment in front changes nothing if no header begins in it, and otherwise the first
header in the comment is read in place of the one behind it.  The types of several words are written
as one word beforehand, in the comment and behind it separately: the slash that closes the comment
is part of no type.  The line feed behind the comment may vanish with a collation, and then the
collation behind it vanishes as well; but no header begins in a collation.
-/

/-- A text between the marks of a comment. -/
def remark (c : Text) : Text :=
  "/*".toList ++ (c ++ "*/".toList)

namespace Table

theorem unifyTypes_remark_append (c rest : Text) :
    unifyTypes (remark c ++ rest) = unifyTypes (remark c) ++ unifyTypes rest := by
  have split : forall rest : Text,
      remark c ++ rest = ("/*".toList ++ (c ++ ['*'])) ++ '/' :: rest := by
    intro rest
    simp [remark]
  have alone := unifyTypes_append_barrier (c := '/') (by decide) ("/*".toList ++ (c ++ ['*'])) []
  have nothing : unifyTypes [] = [] := by simp [unifyTypes, replaceAll, replaceAfter]
  rw [split, unifyTypes_append_barrier (by decide), ← List.append_nil (remark c), split,
    alone, nothing, List.append_assoc]
  rfl

/-! Words that clash with others. -/

/-- A spelled word clashes with what the word itself clashes with. -/
theorem clashes_of_spells {key word spelled : Text} (same : spells word spelled = true) :
    clashes key spelled = clashes key word := by
  induction key generalizing word spelled with
  | nil => cases word <;> cases spelled <;> rfl
  | cons k key ih =>
      cases word with
      | nil =>
          cases spelled with
          | nil => rfl
          | cons d more => cases same
      | cons w word =>
          cases spelled with
          | nil => cases same
          | cons d more =>
              have parts := Bool.and_eq_true_iff.mp same
              have equal : Text.sameLetter k d = Text.sameLetter k w := by
                have letter : Text.letterKey w = Text.letterKey d := beq_iff_eq.mp parts.1
                rw [Text.sameLetter, Text.sameLetter, letter]
              rw [clashes, clashes, equal, ih parts.2]

/-- A phrase that begins with a word begins nowhere in another word whose ends all clash with it. -/
theorem firstWithin_spelled {α : Type} {p : Phrase α} {key word spelled : Text}
    (begins : forall t, letters key t = [] -> p t = []) (same : spells word spelled = true)
    (checked : (word.tails.all fun t => t.isEmpty || clashes key t) = true) (behind : Text) :
    firstWithin p behind spelled = none := by
  induction word generalizing spelled with
  | nil =>
      cases spelled with
      | nil => rfl
      | cons d more => cases same
  | cons w word ih =>
      cases spelled with
      | nil => cases same
      | cons d more =>
          rw [List.tails_cons, List.all_cons, Bool.and_eq_true] at checked
          rw [firstWithin_cons_eq_none_iff]
          refine ⟨begins _ (letters_eq_nil_of_clashes ?_ behind),
            ih (Bool.and_eq_true_iff.mp same).2 checked.2⟩
          rw [clashes_of_spells same]
          exact checked.1

/-! Line feeds in front of a definition. -/

theorem headerForm_of_letters {t : Text} (absent : letters "create".toList t = []) :
    headerForm t = [] := by
  have noWord : keyword "create".toList t = [] := by
    rw [keyword, bind_apply, absent]
    rfl
  rw [headerForm, bind_apply, noWord]
  rfl

/-- The words of a collation, without the white space in front of them. -/
def collationWords : Phrase Unit := do
  keyword "collate".toList
  letters "pg_catalog.\"default\"".toList

theorem advances_collationWords : Advances collationWords :=
  (advances_keyword _).bind fun _ => advances_letters _

theorem defaultCollation_of_blank {c : Char} (blank : Text.isBlank c = true) (rest : Text) :
    defaultCollation (c :: rest) = collationWords (Text.trimStart rest) := by
  have space : blanks1 (c :: rest) = [((), Text.trimStart rest)] := by
    simp [blanks1, bind_apply, charWhere, blank, blanks]
  rw [defaultCollation, bind_apply, space, List.flatMap_singleton]
  rfl

theorem defaultCollation_of_solid {c : Char} (solid : Text.isBlank c = false) (rest : Text) :
    defaultCollation (c :: rest) = [] := by
  have space : blanks1 (c :: rest) = [] := by simp [blanks1, bind_apply, charWhere, solid]
  rw [defaultCollation, bind_apply, space]
  rfl

/-- The definition without the clauses that name the default collation. -/
def withoutCollations (t : Text) : Text :=
  replaceAll (fun _ => defaultCollation) [] t

theorem withoutCollations_of_words {c : Char} (blank : Text.isBlank c = true) {rest : Text}
    {reading : Unit × Text} {others : List (Unit × Text)}
    (words : collationWords (Text.trimStart rest) = reading :: others) :
    withoutCollations (c :: rest) = withoutCollations reading.2 := by
  have ending := advances_collationWords _ reading (words ▸ List.mem_cons_self)
  have shorter : reading.2.length < (c :: rest).length :=
    Nat.lt_succ_of_le ((ending.trans (List.dropWhile_suffix _)).length_le)
  rw [withoutCollations, replaceAll, replaceAfter_cons, defaultCollation_of_blank blank, words,
    List.head?_cons]
  simp only [if_pos shorter, List.nil_append]
  exact replaceAfter_congr (p := fun _ => defaultCollation) rfl reading.2

theorem withoutCollations_append_of_none {front behind : Text}
    (nowhere : firstWithin defaultCollation behind front = none) :
    withoutCollations (front ++ behind) = front ++ withoutCollations behind :=
  replaceAfter_append_of_none nowhere none

/-- No header begins in a collation, and neither does another collation. -/
theorem collation_apart {spelled space name : Text} (first : spells "collate".toList spelled = true)
    (blank : forall c, c ∈ space -> Text.isBlank c = true)
    (second : spells "pg_catalog.\"default\"".toList name = true) (behind : Text) :
    firstWithin headerForm behind (spelled ++ (space ++ name)) = none ∧
      firstWithin defaultCollation behind (spelled ++ (space ++ name)) = none := by
  have solidWord := isBlank_of_spells first (by decide +kernel)
  have solidName := isBlank_of_spells second (by decide +kernel)
  constructor
  · apply firstWithin_append_eq_none
      (firstWithin_spelled (fun _ => headerForm_of_letters) first (by decide) _)
    apply firstWithin_append_eq_none _
      (firstWithin_spelled (fun _ => headerForm_of_letters) second (by decide) _)
    refine firstWithin_eq_none_of_forall fun c member rest => headerForm_of_letters ?_
    exact letters_eq_nil
      (@sameLetter_of_unspaced ['c'] (by decide +kernel) _ _ (blank c member) (by decide)) _ rest
  · have solid : forall t, (forall c, c ∈ t -> Text.isBlank c = false) -> forall behind,
        firstWithin defaultCollation behind t = none := fun t bare behind =>
      firstWithin_eq_none_of_forall fun c member rest =>
        defaultCollation_of_solid (bare c member) rest
    apply firstWithin_append_eq_none (solid spelled solidWord _)
    apply firstWithin_append_eq_none _ (solid name solidName _)
    have noWords : collationWords (name ++ behind) = [] := by
      have clash : clashes "collate".toList name = true := by
        rw [clashes_of_spells second]
        decide
      rw [collationWords, bind_apply, keyword, bind_apply, letters_eq_nil_of_clashes clash]
      rfl
    have bare : forall c, (name ++ behind).head? = some c -> Text.isBlank c = false := by
      intro c found
      cases name with
      | nil => cases second
      | cons d more =>
          obtain rfl : d = c := by simpa using found
          exact solidName d List.mem_cons_self
    clear first solidWord
    induction space with
    | nil => rfl
    | cons c rest ih =>
        have blankRest : forall d, d ∈ rest -> Text.isBlank d = true := fun d member =>
          blank d (List.mem_cons_of_mem c member)
        have trimmed : Text.trimStart (rest ++ (name ++ behind)) = name ++ behind := by
          rw [Text.trimStart, List.dropWhile_append_of_pos blankRest]
          exact Text.dropWhile_of_head bare
        rw [firstWithin_cons_eq_none_iff, List.cons_append,
          defaultCollation_of_blank (blank c List.mem_cons_self), trimmed]
        exact ⟨noWords, ih blankRest⟩

/-- A line feed in front of a definition does not change which header is found.  It may belong to
a collation, which then vanishes although no white space stood in front of it before; but no
header begins in the collation. -/
theorem search?_headerForm_feed (t : Text) :
    search? headerForm (withoutCollations ('\n' :: t)) =
      search? headerForm (withoutCollations t) := by
  have feed : Text.isBlank '\n' = true := by decide
  cases words : collationWords (Text.trimStart t) with
  | nil =>
      have absent : defaultCollation ('\n' :: t) = [] := by
        rw [defaultCollation_of_blank feed, words]
      have kept : withoutCollations ('\n' :: t) = '\n' :: withoutCollations t := by
        rw [withoutCollations, replaceAll, replaceAfter_of_eq_nil absent]
        exact congrArg ('\n' :: ·) (replaceAfter_congr (p := fun _ => defaultCollation) rfl t)
      have noHeader : headerForm ('\n' :: withoutCollations t) = [] :=
        headerForm_of_letters (letters_eq_nil (by decide) _ _)
      rw [kept, search?, noHeader]
      rfl
  | cons reading others =>
      rw [withoutCollations_of_words feed words]
      have inWords : reading ∈ collationWords (Text.trimStart t) := words ▸ List.mem_cons_self
      by_cases spaced : exists c rest, t = c :: rest ∧ Text.isBlank c = true
      · -- white space stands there anyway, so the collation vanishes without the line feed as well
        rcases spaced with ⟨c, rest, rfl, blank⟩
        rw [Text.trimStart, List.dropWhile_cons_of_pos blank, ← Text.trimStart] at words
        rw [withoutCollations_of_words blank words]
      · have trimmed : Text.trimStart t = t := by
          refine Text.dropWhile_of_head fun c found => ?_
          rw [Bool.eq_false_iff]
          intro blank
          cases t with
          | nil => cases found
          | cons d rest =>
              obtain rfl : d = c := by simpa using found
              exact spaced ⟨d, rest, rfl, blank⟩
        rw [trimmed, collationWords, bind_apply] at inWords
        rcases List.mem_flatMap.mp inWords with ⟨middle, inFirst, inSecond⟩
        rcases exists_spelled_of_mem_keyword inFirst with ⟨spelled, space, first, _, blank, split⟩
        rcases exists_spelled_of_mem_letters inSecond with ⟨name, second, splitName⟩
        have whole : t = spelled ++ (space ++ name) ++ reading.2 := by
          rw [split, splitName, List.append_assoc, List.append_assoc]
        have noCollation := (collation_apart first blank second reading.2).2
        have noHeader := (collation_apart first blank second (withoutCollations reading.2)).1
        rw [whole, withoutCollations_append_of_none noCollation, search?_append_of_none noHeader]

/-- A type of several words does not begin with a line feed. -/
theorem wholeWords_feed {w : Char} {word second : Text} {others : List Text}
    (differs : Text.sameLetter w '\n' = false) (before : Option Char) (rest : Text) :
    wholeWords ((w :: word) :: second :: others) before ('\n' :: rest) = [] := by
  have noWord := keyword_eq_nil differs word rest
  have words : (wordsPhrase ((w :: word) :: second :: others) >>= fun _ => wordEnd) ('\n' :: rest) =
      [] := by
    rw [wordsPhrase, bind_apply, bind_apply, noWord]
    · rfl
    · exact List.cons_ne_nil second others
  exact wordStart_bind_eq_nil before words

theorem unlimitedText_feed (before : Option Char) (rest : Text) :
    unlimitedText before ('\n' :: rest) = [] := by
  have bracket : Halts (char '[') ('\n' :: rest) := by
    apply halts_char
    intro c found
    cases found
    decide
  have letter : Halts (letters ['n']) ('\n' :: rest) := by
    apply halts_letters
    intro c found
    cases found
    decide
  have noWord : letters "varchar".toList ('\n' :: rest) = [] := letters_eq_nil (by decide) _ rest
  refine bind_eq_nil_of_halts (t := []) (bracket.either (halts_wordStart before))
    ((advances_char '[').either (advances_wordStart before)) fun t₁ end₁ => ?_
  obtain rfl := List.suffix_nil.mp end₁
  refine bind_eq_nil_of_halts letter.optional (advances_letters ['n']).optional fun t₂ end₂ => ?_
  obtain rfl := List.suffix_nil.mp end₂
  rw [List.nil_append, bind_apply, noWord]
  rfl

/-- The text with every type of several words written as one word, and with its collations. -/
def oneWordTypes (t : Text) : Text :=
  aliases.dropLast.foldl (fun t entry => replaceAll entry.1 entry.2 t) t

theorem unifyTypes_eq_withoutCollations (t : Text) :
    unifyTypes t = withoutCollations (oneWordTypes t) :=
  rfl

theorem oneWordTypes_feed (t : Text) : oneWordTypes ('\n' :: t) = '\n' :: oneWordTypes t := by
  have absent : forall entry, entry ∈ aliases.dropLast ->
      forall before rest, entry.1 before ('\n' :: rest) = [] := by
    intro entry listed before rest
    simp only [aliases, List.dropLast, List.mem_cons, List.not_mem_nil, or_false] at listed
    rcases listed with rfl | rfl | rfl | rfl | rfl
    · exact wholeWords_feed (by decide) before rest
    · exact wholeWords_feed (by decide) before rest
    · exact wholeWords_feed (by decide) before rest
    · exact wholeWords_feed (by decide) before rest
    · exact unlimitedText_feed before rest
  have fresh : forall entry, entry ∈ aliases.dropLast -> entry.1 (some '\n') = entry.1 none :=
    fun entry listed =>
    (isAlias_of_mem (List.dropLast_subset aliases listed)).fresh '\n' (by decide)
  unfold oneWordTypes
  generalize aliases.dropLast = entries at absent fresh
  induction entries generalizing t with
  | nil => rfl
  | cons entry entries ih =>
      have kept : replaceAll entry.1 entry.2 ('\n' :: t) =
          '\n' :: replaceAll entry.1 entry.2 t := by
        rw [replaceAll, replaceAfter_of_eq_nil (absent entry List.mem_cons_self none t),
          replaceAfter_congr (fresh entry List.mem_cons_self)]
        rfl
      rw [List.foldl_cons, kept, List.foldl_cons]
      exact ih _ (fun other member => absent other (List.mem_cons_of_mem entry member))
        fun other member => fresh other (List.mem_cons_of_mem entry member)

/-- The header behind a comment is the one that the definition has without it, if no
header begins in the comment. -/
theorem header?_remark {c s : Text}
    (nowhere : firstWithin headerForm (unifyTypes ('\n' :: s)) (unifyTypes (remark c)) = none) :
    header? (unifyTypes (remark c ++ '\n' :: s)) = header? (unifyTypes s) := by
  have feed : search? headerForm (unifyTypes ('\n' :: s)) = search? headerForm (unifyTypes s) := by
    rw [unifyTypes_eq_withoutCollations, unifyTypes_eq_withoutCollations, oneWordTypes_feed]
    exact search?_headerForm_feed (oneWordTypes s)
  rw [header?, unifyTypes_remark_append, search?_append_of_none nowhere, feed]
  rfl

/-- Texts with the same header define the same table. -/
theorem ofText_of_header?_eq {t u : Text} (same : header? (unifyTypes t) = header? (unifyTypes u))
    {index : Int} {e : Entity} (read : ofText u index = .ok e) : ofText t index = .ok e := by
  have equal : definition (unifyTypes t) = definition (unifyTypes u) := by
    rw [definition, definition, same]
  simp only [ofText, equal] at read ⊢
  cases found : definition (unifyTypes u) with
  | error problem => simp only [found] at read; cases read
  | ok d =>
      simp only [found] at read ⊢
      cases checked : d.checked with
      | error problem => simp only [checked] at read; cases read
      | ok d => simpa only [checked] using read

end Table

namespace Insert

theorem form_feed (rest : Text) : form ('\n' :: rest) = [] := by
  have noWord : keyword "insert".toList ('\n' :: rest) = [] := keyword_eq_nil (by decide) _ rest
  rw [form, bind_apply, noWord]
  rfl

/-- Only the spelling of an insertion decides what is read. -/
theorem ofText_of_search?_eq {t u : Text} (same : search? form t = search? form u) :
    ofText t = ofText u := by
  have spelled : spelling? t = spelling? u := congrArg (Option.map Prod.fst) same
  rw [ofText, ofText, spelled]

end Insert

/-- A comment in front of a definition changes nothing if no header begins in it, and neither
does one in front of an insertion if no insertion begins in it.  Otherwise the first one that
begins in the comment is read. -/
theorem leading_comment (c : Text) :
    (forall s index e, Table.ofText s index = .ok e ->
      (firstWithin Table.headerForm (Table.unifyTypes ('\n' :: s))
        (Table.unifyTypes (remark c)) = none ->
        Table.ofText (remark c ++ '\n' :: s) index = .ok e) ∧
      forall ending,
        firstWithin Table.headerForm (Table.unifyTypes ('\n' :: s)) (Table.unifyTypes (remark c)) =
          some ending ->
        Table.definition (Table.unifyTypes (remark c ++ '\n' :: s)) =
          Table.definition (ending ++ Table.unifyTypes ('\n' :: s))) ∧
    (forall s i, Insert.ofText s = .ok (some i) ->
      (firstWithin Insert.form ('\n' :: s) (remark c) = none ->
        Insert.ofText (remark c ++ '\n' :: s) = .ok (some i)) ∧
      forall ending, firstWithin Insert.form ('\n' :: s) (remark c) = some ending ->
        Insert.ofText (remark c ++ '\n' :: s) = Insert.ofText (ending ++ '\n' :: s)) := by
  constructor
  · intro s index e read
    refine ⟨fun nowhere => Table.ofText_of_header?_eq (Table.header?_remark nowhere) read,
      fun ending begins => ?_⟩
    simp only [Table.definition, Table.header?, Table.unifyTypes_remark_append,
      search?_append_of_some begins]
  · intro s i read
    refine ⟨fun nowhere => ?_,
      fun ending begins => Insert.ofText_of_search?_eq (search?_append_of_some begins)⟩
    have feed : search? Insert.form ('\n' :: s) = search? Insert.form s := by
      rw [search?, Insert.form_feed]
      rfl
    exact (Insert.ofText_of_search?_eq ((search?_append_of_none nowhere).trans feed)).trans read

/-- A note in front changes nothing, but an old definition in a comment is read in place of the
one behind it, and so is an old insertion. -/
theorem commented_out_read :
    (exists e, Table.ofText "CREATE TABLE t (b INT)".toList 0 = .ok e ∧
      Table.ofText (remark " note ".toList ++ "\nCREATE TABLE t (b INT)".toList) 0 = .ok e ∧
      Table.ofText (remark " CREATE TABLE old (a INT) ".toList ++ "\nCREATE TABLE t (b INT)".toList)
        0 ≠ .ok e) ∧
    (exists i, Insert.ofText "INSERT INTO t (a) VALUES (2)".toList = .ok (some i) ∧
      Insert.ofText (remark " note ".toList ++ "\nINSERT INTO t (a) VALUES (2)".toList) =
        .ok (some i) ∧
      Insert.ofText (remark " INSERT INTO old (a) VALUES (1) ".toList ++
        "\nINSERT INTO t (a) VALUES (2)".toList) ≠
        .ok (some i)) := by
  constructor
  · have named : (Table.ofText "CREATE TABLE t (b INT)".toList 0).toOption.map Entity.name =
        some "t".toList := by
      decide +kernel
    have namedOld :
        (Table.ofText (remark " CREATE TABLE old (a INT) ".toList ++
          "\nCREATE TABLE t (b INT)".toList)
        0).toOption.map Entity.name = some "old".toList := by
      decide +kernel
    cases read : Table.ofText "CREATE TABLE t (b INT)".toList 0 with
    | error failure =>
        rw [read] at named
        cases named
    | ok e =>
        rw [read] at named
        have begins : firstWithin Table.headerForm
            (Table.unifyTypes ('\n' :: "CREATE TABLE t (b INT)".toList))
            (Table.unifyTypes (remark " note ".toList)) = none := by decide +kernel
        refine ⟨e, rfl, ((leading_comment " note ".toList).1 _ 0 e read).1 begins, fun same => ?_⟩
        rw [same] at namedOld
        exact absurd (named.symm.trans namedOld) (by decide)
  · have tabled : (Insert.ofText "INSERT INTO t (a) VALUES (2)".toList).toOption.map
        (Option.map Insert.table) =
        some (some "t".toList) := by
      decide +kernel
    have tabledOld : (Insert.ofText (remark " INSERT INTO old (a) VALUES (1) ".toList ++
        "\nINSERT INTO t (a) VALUES (2)".toList)).toOption.map (Option.map Insert.table) =
        some (some "old".toList) := by
      decide +kernel
    cases read : Insert.ofText "INSERT INTO t (a) VALUES (2)".toList with
    | error failure =>
        rw [read] at tabled
        cases tabled
    | ok found =>
        cases found with
        | none =>
            rw [read] at tabled
            cases tabled
        | some i =>
            rw [read] at tabled
            have begins : firstWithin Insert.form ('\n' :: "INSERT INTO t (a) VALUES (2)".toList)
                (remark " note ".toList) = none := by decide +kernel
            refine ⟨i, rfl, ((leading_comment " note ".toList).2 _ i read).1 begins, fun same => ?_⟩
            rw [same] at tabledOld
            exact absurd (tabled.symm.trans tabledOld) (by decide)

end SchemaAtlas
