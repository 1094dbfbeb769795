import Mathlib.Data.Bool.AllAny
import Mathlib.Data.List.TakeWhile
import SchemaAtlas.Text.Blank
import SchemaAtlas.Text.Digit
import SchemaAtlas.Text.Word

namespace SchemaAtlas
namespace Text

/-!
Laws of the operations on texts: joining against splitting, doubling against collapsing, and the
white space at the ends of a text.

Most of them say that one operation undoes another.  Their side conditions name the characters that
would be taken for a separator.
-/

/-! Joining and splitting. -/

theorem join_cons_cons (separator first second : Text) (rest : List Text) :
    join separator (first :: second :: rest) = first ++ separator ++ join separator
      (second :: rest) := by
  simp [join, List.intercalate, List.intersperse]

theorem join_singleton (separator part : Text) : join separator [part] = part := by
  simp [join, List.intercalate]

theorem join_ne_nil {separator first : Text} (nonempty : first ≠ []) (rest : List Text) :
    join separator (first :: rest) ≠ [] := by
  cases rest with
  | nil => rwa [join_singleton]
  | cons second rest => simp [join_cons_cons, nonempty]

theorem join_append_singleton (separator : Text) (front : List Text) (last more : Text) :
    join separator (front ++ [last ++ more]) = join separator (front ++ [last]) ++ more := by
  induction front with
  | nil => simp only [List.nil_append, join_singleton]
  | cons first rest ih =>
      cases rest with
      | nil =>
          simp only [List.nil_append, List.cons_append, join_cons_cons, join_singleton,
            List.append_assoc]
      | cons second rest =>
          simp only [List.cons_append, join_cons_cons, List.append_assoc] at ih ⊢
          rw [ih]

theorem mem_join {separator : Text} {parts : List Text} {c : Char}
    (member : c ∈ join separator parts) : c ∈ separator ∨ ∃ part, part ∈ parts ∧ c ∈ part := by
  induction parts with
  | nil => simp [join, List.intercalate] at member
  | cons first rest ih =>
      cases rest with
      | nil =>
          rw [join_singleton] at member
          exact Or.inr ⟨first, by simp, member⟩
      | cons second rest =>
          rw [join_cons_cons, List.mem_append, List.mem_append] at member
          rcases member with (inFirst | inSeparator) | inRest
          · exact Or.inr ⟨first, by simp, inFirst⟩
          · exact Or.inl inSeparator
          · rcases ih inRest with inSeparator | ⟨part, listed, inside⟩
            · exact Or.inl inSeparator
            · exact Or.inr ⟨part, List.mem_cons_of_mem _ listed, inside⟩

theorem map_join (f : Char -> Char) (separator : Text) (parts : List Text) :
    (join separator parts).map f = join (separator.map f) (parts.map (List.map f)) := by
  induction parts with
  | nil => rfl
  | cons first rest ih =>
      cases rest with
      | nil => simp only [List.map_cons, List.map_nil, join_singleton]
      | cons second rest =>
          rw [join_cons_cons, List.map_append, List.map_append, ih]
          simp only [List.map_cons, join_cons_cons]

/-- A test that fails on the separator finds what it finds in the parts. -/
theorem filter_join {test : Char -> Bool} {separator : Char} (dropped : test separator = false)
    (parts : List Text) : (join [separator] parts).filter test = parts.flatten.filter test := by
  induction parts with
  | nil => rfl
  | cons first rest ih =>
      cases rest with
      | nil => rw [join_singleton, List.flatten_singleton]
      | cons second rest =>
          rw [join_cons_cons, List.append_assoc, List.singleton_append, List.filter_append,
            List.filter_cons_of_neg (Bool.eq_false_iff.mp dropped), ih, ← List.filter_append,
              List.flatten_cons (l := first)]

/-- A text without a cutting character is one piece. -/
theorem splitWhere_of_forall {cut : Char -> Bool} {t : Text}
    (uncut : forall c, c ∈ t -> cut c = false) : splitWhere cut t = [t] := by
  induction t with
  | nil => rfl
  | cons c rest ih =>
      have here := uncut c (by simp)
      have later := ih fun d member => uncut d (List.mem_cons_of_mem _ member)
      simp [splitWhere, here, later]

/-- The first piece ends at the first cutting character. -/
theorem splitWhere_append_cons {cut : Char -> Bool} {t : Text} {c : Char}
    (uncut : forall d, d ∈ t -> cut d = false) (cuts : cut c = true) (rest : Text) :
    splitWhere cut (t ++ c :: rest) = t :: splitWhere cut rest := by
  induction t with
  | nil => simp [splitWhere, cuts]
  | cons d more ih =>
      have here := uncut d (by simp)
      have later := ih fun e member => uncut e (List.mem_cons_of_mem _ member)
      simp [splitWhere, here, later]

theorem splitWhere_ne_nil (cut : Char -> Bool) (t : Text) : splitWhere cut t ≠ [] := by
  cases t with
  | nil => exact List.cons_ne_nil _ _
  | cons c rest =>
      rw [splitWhere]
      split
      · exact List.cons_ne_nil _ _
      · split
        · exact List.cons_ne_nil _ _
        · exact List.cons_ne_nil _ _

/-- What stands before a cutting character and what stands behind it are split one by one. -/
theorem splitWhere_append {cut : Char -> Bool} {c : Char} (cuts : cut c = true) (t rest : Text) :
    splitWhere cut (t ++ c :: rest) = splitWhere cut t ++ splitWhere cut rest := by
  induction t with
  | nil => simp [splitWhere, cuts]
  | cons d more ih =>
      cases here : cut d with
      | true => simp [splitWhere, here, ih]
      | false =>
          cases pieces : splitWhere cut more with
          | nil => exact absurd pieces (splitWhere_ne_nil cut more)
          | cons piece others => simp [splitWhere, here, ih, pieces]

theorem splitOn_append (separator : Char) (t rest : Text) :
    splitOn separator (t ++ separator :: rest) = splitOn separator t ++ splitOn separator rest :=
  @splitWhere_append (· == separator) separator (beq_self_eq_true separator) t rest

/-- Splitting at a character undoes joining with it, where what follows the character in the
separator stays in front of the later pieces. -/
theorem splitOn_join {separator : Char} {padding : Text} {first : Text} {rest : List Text}
    (outside : separator ∉ padding) (free : forall part, part ∈ first :: rest -> separator ∉ part) :
    splitOn separator (join (separator :: padding) (first :: rest)) =
      first :: rest.map (padding ++ ·) := by
  have uncut : forall part : Text, separator ∉ part ->
      forall c, c ∈ part -> (c == separator) = false := by
    intro part absent c member
    exact beq_eq_false_iff_ne.mpr fun equal => absent (equal ▸ member)
  -- the padding is carried along in front of the first part, which is what the later steps need
  have padded : forall (front first : Text) (rest : List Text), separator ∉ front ->
      (forall part, part ∈ first :: rest -> separator ∉ part) ->
      splitOn separator (front ++ join (separator :: padding) (first :: rest)) =
        (front ++ first) :: rest.map (padding ++ ·) := by
    intro front first rest
    induction rest generalizing front first with
    | nil =>
        intro frontFree free
        rw [join_singleton]
        apply splitWhere_of_forall
        apply uncut
        simp only [List.mem_append, not_or]
        exact ⟨frontFree, free first (by simp)⟩
    | cons second rest ih =>
        intro frontFree free
        have whole : front ++ join (separator :: padding) (first :: second :: rest) =
            (front ++ first) ++ separator ::
              (padding ++ join (separator :: padding) (second :: rest)) := by
          simp only [join_cons_cons, List.append_assoc, List.cons_append]
        have firstFree : separator ∉ front ++ first := by
          simp only [List.mem_append, not_or]
          exact ⟨frontFree, free first (by simp)⟩
        have later := ih padding second outside fun part member =>
          free part (List.mem_cons_of_mem _ member)
        rw [whole, splitOn, splitWhere_append_cons (uncut _ firstFree) (beq_self_eq_true separator)]
        rw [splitOn] at later
        rw [later, List.map_cons]
  simpa only [List.nil_append] using padded [] first rest (by simp) free

theorem splitWhere_join {cut : Char -> Bool} {separator : Char} {first : Text} {rest : List Text}
    (cuts : cut separator = true)
    (uncut : forall part, part ∈ first :: rest -> forall c, c ∈ part -> cut c = false) :
    splitWhere cut (join [separator] (first :: rest)) = first :: rest := by
  induction rest generalizing first with
  | nil =>
      rw [join_singleton]
      exact splitWhere_of_forall (uncut first List.mem_cons_self)
  | cons second rest ih =>
      have later := ih fun part member => uncut part (List.mem_cons_of_mem first member)
      rw [join_cons_cons, List.append_assoc, List.singleton_append,
        splitWhere_append_cons (uncut first List.mem_cons_self) cuts, later]

theorem mem_of_mem_splitWhere {cut : Char -> Bool} {t piece : Text}
    (member : piece ∈ splitWhere cut t) : forall c, c ∈ piece -> c ∈ t ∧ cut c = false := by
  induction t generalizing piece with
  | nil =>
      obtain rfl : piece = [] := by simpa [splitWhere] using member
      simp
  | cons d rest ih =>
      rw [splitWhere] at member
      split at member
      · rcases List.mem_cons.mp member with rfl | later
        · simp
        · intro c inside
          exact ⟨List.mem_cons_of_mem d (ih later c inside).1, (ih later c inside).2⟩
      · rename_i stays
        cases pieces : splitWhere cut rest with
        | nil =>
            rw [pieces] at member
            obtain rfl : piece = [d] := by simpa using member
            simpa using stays
        | cons first others =>
            rw [pieces] at member ih
            rcases List.mem_cons.mp member with rfl | later
            · intro c inside
              rcases List.mem_cons.mp inside with rfl | further
              · exact ⟨List.mem_cons_self, by simpa using stays⟩
              · have found := ih List.mem_cons_self c further
                exact ⟨List.mem_cons_of_mem d found.1, found.2⟩
            · intro c inside
              have found := ih (List.mem_cons_of_mem first later) c inside
              exact ⟨List.mem_cons_of_mem d found.1, found.2⟩

/-! Words. -/

/-- A text without white space that is not empty. -/
structure IsWord (t : Text) : Prop where
  nonempty : t ≠ []
  solid : forall c, c ∈ t -> isBlank c = false

theorem words_of_isWord {t : Text} (isWord : IsWord t) : words t = [t] := by
  have filled : t.isEmpty = false := List.isEmpty_eq_false_iff.mpr isWord.nonempty
  rw [words, splitWhere_of_forall isWord.solid, List.filter_cons_of_pos (by simp [filled]),
    List.filter_nil]

theorem words_blank_cons {c : Char} (blank : isBlank c = true) (t : Text) :
    words (c :: t) = words t := by
  rw [words, splitWhere, if_pos blank]
  rfl

theorem words_blank_append {space : Text} (blank : forall c, c ∈ space -> isBlank c = true)
    (t : Text) : words (space ++ t) = words t := by
  induction space with
  | nil => rfl
  | cons c rest ih =>
      rw [List.cons_append, words_blank_cons (blank c List.mem_cons_self),
        ih fun d member => blank d (List.mem_cons_of_mem c member)]

/-- White space separates a word from what follows. -/
theorem words_append {word space : Text} (isWord : IsWord word) (spaced : space ≠ [])
    (blank : forall c, c ∈ space -> isBlank c = true) (t : Text) :
    words (word ++ (space ++ t)) = word :: words t := by
  cases space with
  | nil => exact absurd rfl spaced
  | cons c rest =>
      have filled : word.isEmpty = false := List.isEmpty_eq_false_iff.mpr isWord.nonempty
      have behind := words_blank_append (fun d member => blank d (List.mem_cons_of_mem c member)) t
      rw [words, List.cons_append, splitWhere_append_cons isWord.solid (blank c List.mem_cons_self),
        List.filter_cons_of_pos (by simp [filled])]
      exact congrArg (word :: ·) behind

theorem isWord_of_mem_words {t word : Text} (member : word ∈ words t) : IsWord word := by
  rcases List.mem_filter.mp member with ⟨piece, filled⟩
  refine ⟨?_, fun c inside => (mem_of_mem_splitWhere piece c inside).2⟩
  rintro rfl
  cases filled

/-- White space at the ends belongs to no word. -/
theorem words_append_blank {space : Text} (blank : forall c, c ∈ space -> isBlank c = true)
    (t : Text) : words (t ++ space) = words t := by
  cases space with
  | nil => rw [List.append_nil]
  | cons c rest =>
      have behind : words rest = [] := by
        have alone := words_blank_append
          (fun d member => blank d (List.mem_cons_of_mem c member)) []
        rwa [List.append_nil] at alone
      rw [words, splitWhere_append (blank c List.mem_cons_self), List.filter_append]
      exact (congrArg (words t ++ ·) behind).trans (List.append_nil _)

theorem words_join {parts : List Text} (each : forall part, part ∈ parts -> IsWord part) :
    words (join [' '] parts) = parts := by
  induction parts with
  | nil => rfl
  | cons first rest ih =>
      have isWord := each first List.mem_cons_self
      have later := ih fun part member => each part (List.mem_cons_of_mem first member)
      cases rest with
      | nil => rw [join_singleton, words_of_isWord isWord]
      | cons second rest =>
          have space : forall c, c ∈ [' '] -> isBlank c = true :=
            fun c member => List.mem_singleton.mp member ▸ by decide
          rw [join_cons_cons, List.append_assoc, words_append isWord (List.cons_ne_nil _ _) space,
            later]

theorem words_oneSpaced (t : Text) : words (oneSpaced t) = words t :=
  words_join fun _ member => isWord_of_mem_words member

/-- The first piece is what stands in front of the first cutting character. -/
theorem exists_splitWhere_eq_cons (cut : Char -> Bool) (t : Text) :
    exists pieces, splitWhere cut t = t.takeWhile (fun c => !cut c) :: pieces := by
  induction t with
  | nil => exact ⟨[], rfl⟩
  | cons c rest ih =>
      rcases ih with ⟨pieces, split⟩
      cases here : cut c with
      | true => exact ⟨splitWhere cut rest, by simp [splitWhere, here]⟩
      | false => exact ⟨pieces, by simp [splitWhere, here, split]⟩

/-- Only the cutting characters are in no piece. -/
theorem flatten_splitWhere (cut : Char -> Bool) (t : Text) :
    (splitWhere cut t).flatten = t.filter fun c => !cut c := by
  induction t with
  | nil => rfl
  | cons c rest ih =>
      rcases exists_splitWhere_eq_cons cut rest with ⟨pieces, split⟩
      cases here : cut c with
      | true => simp [splitWhere, here, ih]
      | false =>
          rw [List.filter_cons_of_pos (by simp [here]), ← ih]
          simp [splitWhere, here, split]

theorem isPrefixOf_takeWhile {test : Char -> Bool} {needle : Text}
    (each : forall c, c ∈ needle -> test c = true) (t : Text) :
    needle.isPrefixOf (t.takeWhile test) = needle.isPrefixOf t := by
  rw [Bool.eq_iff_iff, List.isPrefixOf_iff_prefix, List.isPrefixOf_iff_prefix]
  constructor
  · exact fun front => front.trans (List.takeWhile_prefix test)
  · rintro ⟨rest, rfl⟩
    rw [List.takeWhile_append_of_pos each]
    exact List.prefix_append _ _

/-- A word stands in a text just if it stands in one of the words of the text. -/
theorem has_eq_any_words {needle : Text} (isWord : IsWord needle) (t : Text) :
    has needle t = (words t).any (has needle) := by
  have nowhere : has needle [] = false := List.isEmpty_eq_false_iff.mpr isWord.nonempty
  have solid : forall c, c ∈ needle -> (!isBlank c) = true := fun c member => by
    simp [isWord.solid c member]
  have pieces : has needle t = (splitWhere isBlank t).any (has needle) := by
    induction t with
    | nil => simp [splitWhere]
    | cons c rest ih =>
        have front := isPrefixOf_takeWhile solid (c :: rest)
        rcases exists_splitWhere_eq_cons isBlank rest with ⟨others, split⟩
        rw [has, ih, ← front]
        cases blank : isBlank c with
        | true =>
            have apart : needle.isPrefixOf [] = false := by
              cases needle with
              | nil => exact absurd rfl isWord.nonempty
              | cons d more => rfl
            simp [splitWhere, blank, nowhere, apart]
        | false => simp [splitWhere, blank, split, has, Bool.or_assoc]
  rw [pieces, words, List.any_filter]
  congr 1
  funext piece
  cases piece with
  | nil => rw [nowhere]; rfl
  | cons c rest => rfl

theorem has_oneSpaced {needle : Text} (isWord : IsWord needle) (t : Text) :
    has needle (oneSpaced t) = has needle t := by
  rw [has_eq_any_words isWord, has_eq_any_words isWord, words_oneSpaced]

/-- Every solid character is in some piece. -/
theorem exists_mem_splitWhere {cut : Char -> Bool} {t : Text} {c : Char} (member : c ∈ t)
    (solid : cut c = false) : exists piece, piece ∈ splitWhere cut t ∧ c ∈ piece := by
  induction t with
  | nil => cases member
  | cons d rest ih =>
      rcases exists_splitWhere_eq_cons cut rest with ⟨others, split⟩
      rcases List.mem_cons.mp member with rfl | later
      · exact ⟨c :: rest.takeWhile fun c =>
          !cut c, by simp [splitWhere, solid, split], List.mem_cons_self⟩
      · rcases ih later with ⟨piece, listed, inside⟩
        cases here : cut d with
        | true => exact ⟨piece, by simp [splitWhere, here, listed], inside⟩
        | false =>
            rw [split] at listed
            rcases List.mem_cons.mp listed with rfl | further
            · exact ⟨_, by simp [splitWhere, here, split], List.mem_cons_of_mem d inside⟩
            · exact ⟨piece, by simp [splitWhere, here, split, further], inside⟩

theorem words_ne_nil {t : Text} {c : Char} (member : c ∈ t) (solid : isBlank c = false) :
    words t ≠ [] := by
  rcases exists_mem_splitWhere member solid with ⟨piece, listed, inside⟩
  have filled : piece.isEmpty = false := List.isEmpty_eq_false_iff.mpr (List.ne_nil_of_mem inside)
  exact List.ne_nil_of_mem (List.mem_filter.mpr ⟨listed, by simp [filled]⟩)

/-! Doubling and collapsing. -/

theorem double_cons (q c : Char) (t : Text) :
    double q (c :: t) = (if c = q then [q, q] else [c]) ++ double q t := by
  by_cases same : c = q
  · simp [double, same]
  · simp [double, same]

theorem double_of_not_mem {q : Char} {t : Text} (absent : q ∉ t) : double q t = t := by
  induction t with
  | nil => rfl
  | cons c rest ih =>
      have here : ¬ c = q := fun same => absent (by simp [same])
      rw [double_cons, if_neg here, ih fun member => absent (List.mem_cons_of_mem c member)]
      rfl

theorem head?_double (q : Char) (t : Text) : (double q t).head? = t.head? := by
  cases t with
  | nil => rfl
  | cons c rest =>
      rw [double_cons]
      split
      · rename_i same
        rw [same]
        rfl
      · rfl

theorem collapse_cons_of_ne {q c : Char} (other : c ≠ q) (t : Text) :
    collapse q (c :: t) = c :: collapse q t := by
  cases t with
  | nil => rfl
  | cons d rest => simp [collapse, other]

/-- A character that no equal one follows is not the first of a pair. -/
theorem collapse_cons_of_head {q : Char} {t : Text} (apart : t.head? ≠ some q) (c : Char) :
    collapse q (c :: t) = c :: collapse q t := by
  cases t with
  | nil => rfl
  | cons d rest =>
      have other : d ≠ q := fun same => apart (congrArg some same)
      simp [collapse, other]

theorem collapse_pair (q : Char) (t : Text) : collapse q (q :: q :: t) = q :: collapse q t := by
  simp [collapse]

/-- Collapsing pairs of a character undoes writing it twice. -/
theorem collapse_double (q : Char) (t : Text) : collapse q (double q t) = t := by
  induction t with
  | nil => rfl
  | cons c rest ih =>
      rw [double_cons]
      by_cases same : c = q
      · rw [if_pos same, List.cons_append, List.singleton_append, collapse_pair, ih, same]
      · rw [if_neg same, List.singleton_append, collapse_cons_of_ne same, ih]

/-- The pairs of a character are the same where another one is written twice. -/
theorem collapse_double_of_ne {q p : Char} (other : p ≠ q) (t : Text) :
    collapse q (double p t) = double p (collapse q t) := by
  fun_induction collapse q t with
  | case1 => rfl
  | case2 c =>
      rw [double_cons]
      split
      · exact collapse_cons_of_ne other [p]
      · rfl
  | case3 c d rest pair ih =>
      simp only [Bool.and_eq_true, beq_iff_eq] at pair
      rcases pair with ⟨rfl, rfl⟩
      simp only [double_cons, if_neg other.symm, List.singleton_append, collapse_pair, ih]
  | case4 c d rest single ih =>
      rw [double_cons p c, double_cons p c]
      by_cases same : c = p
      · simp only [if_pos same, List.cons_append, List.nil_append, collapse_cons_of_ne other, ih]
      · rw [if_neg same, List.singleton_append, List.singleton_append, ← ih]
        by_cases begins : c = q
        · subst begins
          apply collapse_cons_of_head
          rw [head?_double]
          intro follows
          simp [Option.some.inj follows] at single
        · exact collapse_cons_of_ne begins _

theorem length_collapse_le (q : Char) (t : Text) : (collapse q t).length ≤ t.length := by
  fun_induction collapse q t with
  | case1 => exact Nat.le_refl _
  | case2 c => exact Nat.le_refl _
  | case3 c d rest pair ih =>
      simp only [List.length_cons]
      omega
  | case4 c d rest single ih =>
      simp only [List.length_cons] at ih ⊢
      omega

/-- A text without pairs of a character is left alone, and no other is. -/
theorem collapse_eq_self_iff (q : Char) (t : Text) : collapse q t = t ↔ ¬ [q, q] <:+: t := by
  fun_induction collapse q t with
  | case1 => simp
  | case2 c => simp [List.infix_cons_iff]
  | case3 c d rest pair ih =>
      simp only [Bool.and_eq_true, beq_iff_eq] at pair
      rcases pair with ⟨rfl, rfl⟩
      refine iff_of_false ?_ (not_not_intro ⟨[], rest, rfl⟩)
      intro same
      have size := congrArg List.length same
      have shorter := length_collapse_le d rest
      simp only [List.length_cons] at size
      omega
  | case4 c d rest single ih =>
      have either : [q, q] <:+: c :: d :: rest ↔ [q, q] <+: c :: d :: rest ∨
        [q, q] <:+: d :: rest := List.infix_cons_iff
      rw [List.cons.injEq, and_iff_right rfl, ih, either, not_or]
      refine (and_iff_right ?_).symm
      rintro ⟨more, whole⟩
      simp only [List.cons_append, List.cons.injEq] at whole
      simp [← whole.1, ← whole.2.1] at single

theorem mem_double {q c : Char} {t : Text} : c ∈ double q t ↔ c ∈ t := by
  induction t with
  | nil => simp [double]
  | cons d rest ih =>
      rw [double_cons, List.mem_append, ih, List.mem_cons]
      by_cases same : d = q
      · simp [same]
      · simp [same]

/-! Characters in intervals. -/

/-- The characters of some closed intervals of code points, one by one. -/
def charsIn (table : List (Nat × Nat)) : List Char :=
  table.flatMap fun interval => (List.range (interval.2 + 1 - interval.1)).map fun n =>
    Char.ofNat (interval.1 + n)

theorem mem_charsIn {table : List (Nat × Nat)} {c : Char} (inside : inIntervals table c = true) :
    c ∈ charsIn table := by
  rcases List.any_eq_true.mp inside with ⟨interval, listed, bounds⟩
  simp only [Bool.and_eq_true, decide_eq_true_eq] at bounds
  refine List.mem_flatMap.mpr ⟨interval, listed, List.mem_map.mpr ⟨c.toNat - interval.1, ?_, ?_⟩⟩
  · exact List.mem_range.mpr (by omega)
  · rw [Nat.add_sub_cancel' bounds.1]
    exact Char.ofNat_toNat c

/-! Line ends. -/

/-- No line ends in the text. -/
def Unbroken (t : Text) : Prop :=
  '\r' ∉ t ∧ '\n' ∉ t

instance (t : Text) : Decidable t.Unbroken :=
  inferInstanceAs (Decidable (_ ∧ _))

theorem Unbroken.append {first second : Text} (unbrokenFirst : Unbroken first)
    (unbrokenSecond : Unbroken second) : Unbroken (first ++ second) := by
  simp only [Unbroken, List.mem_append, not_or]
  exact ⟨⟨unbrokenFirst.1, unbrokenSecond.1⟩, ⟨unbrokenFirst.2, unbrokenSecond.2⟩⟩

theorem Unbroken.join {separator : Text} {parts : List Text}
    (unbrokenSeparator : Unbroken separator)
    (unbrokenParts : forall part, part ∈ parts -> Unbroken part) :
    Unbroken (Text.join separator parts) := by
  constructor
  · intro member
    rcases mem_join member with inSeparator | ⟨part, listed, inside⟩
    · exact unbrokenSeparator.1 inSeparator
    · exact (unbrokenParts part listed).1 inside
  · intro member
    rcases mem_join member with inSeparator | ⟨part, listed, inside⟩
    · exact unbrokenSeparator.2 inSeparator
    · exact (unbrokenParts part listed).2 inside

theorem unbroken_of_forall {test : Char -> Bool} {t : Text}
    (each : forall c, c ∈ t -> test c = true) (noReturn : test '\r' = false)
    (noFeed : test '\n' = false) : Unbroken t := by
  constructor
  · intro member
    exact absurd (each _ member) (by simp [noReturn])
  · intro member
    exact absurd (each _ member) (by simp [noFeed])

/-! White space at the ends. -/

/-- No white space stands at either end of the text. -/
def Unpadded (t : Text) : Prop :=
  (forall c, t.head? = some c -> isBlank c = false) ∧
    forall c, t.getLast? = some c -> isBlank c = false

instance (t : Text) : Decidable t.Unpadded :=
  decidable_of_iff (t.head?.all (!isBlank ·) = true ∧ t.getLast?.all (!isBlank ·) = true)
    (by simp [Unpadded, Option.all_eq_true])

/-- A test that fails on the first character, in the form in which a boundary is asked for. -/
theorem fails_at_head {test : Char -> Bool} (c : Char) (rest : Text) (fails : test c = false) :
    forall d, (c :: rest).head? = some d -> test d = false := by
  intro d found
  cases found
  exact fails

theorem dropWhile_of_head {test : Char -> Bool} {t : Text}
    (stops : forall c, t.head? = some c -> test c = false) : t.dropWhile test = t := by
  cases t with
  | nil => rfl
  | cons c rest => simp [stops c rfl]

/-- The longest run of matching characters ends where a character fails. -/
theorem takeWhile_append_of_head {test : Char -> Bool} {t rest : Text}
    (inside : forall c, c ∈ t -> test c = true)
    (stops : forall c, rest.head? = some c -> test c = false) : (t ++ rest).takeWhile test = t := by
  have stop : rest.takeWhile test = [] := by
    cases rest with
    | nil => rfl
    | cons c more => simp [stops c rfl]
  rw [List.takeWhile_append_of_pos inside, stop, List.append_nil]

theorem fails_of_head?_dropWhile {test : Char -> Bool} {t : Text} {c : Char}
    (first : (t.dropWhile test).head? = some c) : test c = false := by
  simpa [first] using List.head?_dropWhile_not test t

/-- A text cut at the length of its first run is that run and what follows. -/
theorem take_length_takeWhile (test : Char -> Bool) (t : Text) :
    t.take (t.takeWhile test).length = t.takeWhile test :=
  (List.prefix_iff_eq_take.mp (List.takeWhile_prefix test)).symm

theorem drop_length_takeWhile (test : Char -> Bool) (t : Text) :
    t.drop (t.takeWhile test).length = t.dropWhile test := by
  conv => lhs; arg 2; rw [← List.takeWhile_append_dropWhile (p := test) (l := t)]
  exact List.drop_left

theorem trim_of_isBlankText {t : Text} (blank : isBlankText t = true) : trim t = [] := by
  have start : trimStart t = [] := List.dropWhile_eq_nil_iff.mpr (List.all_eq_true.mp blank)
  rw [trim, start]
  rfl

/-- Only what stands behind a solid character is trimmed at the end. -/
theorem trimEnd_cons {c : Char} (solid : isBlank c = false) (t : Text) :
    trimEnd (c :: t) = c :: trimEnd t := by
  have dropped : (t.reverse ++ [c]).dropWhile isBlank = t.reverse.dropWhile isBlank ++ [c] := by
    rw [List.dropWhile_append]
    cases rest : t.reverse.dropWhile isBlank with
    | nil => simp [solid]
    | cons d more => simp
  rw [trimEnd, List.reverse_cons, dropped, List.reverse_append]
  rfl

theorem trimEnd_append_of_solid {word : Text}
    (solid : forall c, c ∈ word -> isBlank c = false) (more : Text) :
    trimEnd (word ++ more) = word ++ trimEnd more := by
  induction word with
  | nil => rfl
  | cons c word ih =>
      rw [List.cons_append, trimEnd_cons (solid c List.mem_cons_self),
        ih fun d member => solid d (List.mem_cons_of_mem c member), List.cons_append]

theorem trimStart_of_unpadded {t : Text} (bare : Unpadded t) : trimStart t = t :=
  dropWhile_of_head bare.1

theorem trimEnd_of_unpadded {t : Text} (bare : Unpadded t) : trimEnd t = t := by
  have stops : forall c, t.reverse.head? = some c -> isBlank c = false := by
    intro c last
    rw [List.head?_reverse] at last
    exact bare.2 c last
  rw [trimEnd, dropWhile_of_head stops, List.reverse_reverse]

theorem trim_of_unpadded {t : Text} (bare : Unpadded t) : trim t = t := by
  rw [trim, trimStart_of_unpadded bare, trimEnd_of_unpadded bare]

/-- White space in front of an unpadded text is all that trimming takes away. -/
theorem trim_blank_append {space t : Text} (blank : forall c, c ∈ space -> isBlank c = true)
    (bare : Unpadded t) : trim (space ++ t) = t := by
  have start : trimStart (space ++ t) = t := by
    rw [trimStart, List.dropWhile_append_of_pos blank]
    exact trimStart_of_unpadded bare
  rw [trim, start, trimEnd_of_unpadded bare]

theorem trimEnd_append_blank {space : Text}
    (blank : forall c, c ∈ space -> isBlank c = true) (t : Text) :
    trimEnd (t ++ space) = trimEnd t := by
  have reversed : forall c, c ∈ space.reverse -> isBlank c = true :=
    fun c member => blank c (List.mem_reverse.mp member)
  rw [trimEnd, List.reverse_append, List.dropWhile_append_of_pos reversed, trimEnd]

/-- White space at both ends of an unpadded text is all that trimming takes away. -/
theorem trim_between_blanks {front t behind : Text}
    (blankFront : forall c, c ∈ front -> isBlank c = true)
    (blankBehind : forall c, c ∈ behind -> isBlank c = true) (bare : Unpadded t) (filled : t ≠ []) :
    trim (front ++ (t ++ behind)) = t := by
  have start : trimStart (front ++ (t ++ behind)) = t ++ behind := by
    rw [trimStart, List.dropWhile_append_of_pos blankFront]
    apply dropWhile_of_head
    intro c found
    cases t with
    | nil => exact absurd rfl filled
    | cons d rest => exact bare.1 c found
  rw [trim, start, trimEnd_append_blank blankBehind, trimEnd_of_unpadded bare]

/-- Trimming takes away the white space at the end and nothing else. -/
theorem exists_trimEnd_append (t : Text) :
    exists space, (forall c, c ∈ space -> isBlank c = true) ∧ t = trimEnd t ++ space := by
  refine ⟨(t.reverse.takeWhile isBlank).reverse, ?_, ?_⟩
  · intro c member
    exact List.mem_takeWhile_imp (List.mem_reverse.mp member)
  · rw [trimEnd, ← List.reverse_append, List.takeWhile_append_dropWhile, List.reverse_reverse]

/-- What is taken away at the ends of a text matches, and nothing else is taken away. -/
theorem exists_append_trimWhere_append (drop : Char -> Bool) (t : Text) :
    exists front behind, (forall c, c ∈ front ++ behind -> drop c = true) ∧
      t = front ++ (trimWhere drop t ++ behind) := by
  refine ⟨t.takeWhile drop, ((t.dropWhile drop).reverse.takeWhile drop).reverse, ?_, ?_⟩
  · intro c member
    rcases List.mem_append.mp member with inFront | inBehind
    · exact List.mem_takeWhile_imp inFront
    · exact List.mem_takeWhile_imp (List.mem_reverse.mp inBehind)
  · rw [trimWhere, ← List.reverse_append, List.takeWhile_append_dropWhile, List.reverse_reverse,
      List.takeWhile_append_dropWhile]

/-- Trimming takes away the white space at both ends and nothing else. -/
theorem exists_append_trim_append (t : Text) :
    exists front behind, (forall c, c ∈ front ++ behind -> isBlank c = true) ∧
      t = front ++ (trim t ++ behind) :=
  exists_append_trimWhere_append isBlank t

theorem unpadded_trim (t : Text) : Unpadded (trim t) := by
  constructor
  · intro c found
    rcases exists_trimEnd_append (trimStart t) with ⟨space, _, split⟩
    have first : (trimStart t).head? = some c := by
      rw [split, List.head?_append]
      exact congrArg (Option.or · space.head?) found
    exact fails_of_head?_dropWhile first
  · intro c found
    rw [trim, trimEnd, List.getLast?_reverse] at found
    exact fails_of_head?_dropWhile found

/-- A test that fails on white space finds the same with and without it at the ends. -/
theorem filter_trim {test : Char -> Bool} (solid : forall c, isBlank c = true -> test c = false)
    (t : Text) : (trim t).filter test = t.filter test := by
  rcases exists_append_trim_append t with ⟨front, behind, blank, split⟩
  have none : forall space : Text,
      (forall c, c ∈ space -> c ∈ front ++ behind) -> space.filter test = [] := by
    intro space part
    rw [List.filter_eq_nil_iff]
    intro c member
    simp [solid c (blank c (part c member))]
  conv => rhs; rw [split]
  rw [List.filter_append, List.filter_append, none front fun c => List.mem_append_left behind,
    none behind fun c => List.mem_append_right front, List.nil_append, List.append_nil]

theorem unpadded_append {first last : Text} (nonemptyFirst : first ≠ []) (nonemptyLast : last ≠ [])
    (bareFirst : forall c, first.head? = some c -> isBlank c = false)
    (bareLast : forall c, last.getLast? = some c -> isBlank c = false) :
    Unpadded (first ++ last) := by
  constructor
  · intro c found
    cases first with
    | nil => exact absurd rfl nonemptyFirst
    | cons d rest => exact bareFirst c found
  · intro c found
    rw [List.getLast?_append] at found
    cases final : last.getLast? with
    | none => exact absurd (List.getLast?_eq_none_iff.mp final) nonemptyLast
    | some d =>
        rw [final, Option.some_or] at found
        exact bareLast c (final.trans found)

theorem unpadded_of_forall {t : Text} (solid : forall c, c ∈ t -> isBlank c = false) : Unpadded t :=
  ⟨fun c found => solid c (List.mem_of_head? found),
    fun c found => solid c (List.mem_of_getLast? found)⟩

/-- A text between two characters, as quotes and parentheses are. -/
theorem unpadded_enclosed {opening closing : Char} (solidOpening : isBlank opening = false)
    (solidClosing : isBlank closing = false) (body : Text) :
    Unpadded (opening :: body ++ [closing]) := by
  refine unpadded_append (List.cons_ne_nil _ _) (List.cons_ne_nil _ _)
    (fails_at_head opening _ solidOpening) ?_
  intro c found
  obtain rfl := Option.some.inj found
  exact solidClosing

theorem unpadded_join (separator : Text) {parts : List Text}
    (each : forall part, part ∈ parts -> part ≠ [] ∧ Unpadded part) :
    Unpadded (join separator parts) := by
  induction parts with
  | nil => exact unpadded_of_forall fun c member => nomatch member
  | cons first rest ih =>
      rcases each first List.mem_cons_self with ⟨filled, bare⟩
      cases rest with
      | nil =>
          rw [join_singleton]
          exact bare
      | cons second rest =>
          have later := ih fun part member => each part (List.mem_cons_of_mem first member)
          have nonempty : join separator (second :: rest) ≠ [] :=
            join_ne_nil (each second (by simp)).1 rest
          rw [join_cons_cons, List.append_assoc]
          refine unpadded_append filled (by simp [nonempty]) bare.1 ?_
          intro c found
          cases final : (join separator (second :: rest)).getLast? with
          | none => exact absurd (List.getLast?_eq_none_iff.mp final) nonempty
          | some d =>
              rw [List.getLast?_append, final, Option.some_or] at found
              exact later.2 c (final.trans found)

theorem unpadded_oneSpaced (t : Text) : Unpadded (oneSpaced t) := by
  refine unpadded_join [' '] fun part member => ?_
  have isWord := isWord_of_mem_words member
  exact ⟨isWord.nonempty, unpadded_of_forall isWord.solid⟩

theorem words_trim (t : Text) : words (trim t) = words t := by
  rcases exists_append_trim_append t with ⟨front, behind, blank, split⟩
  conv => rhs; rw [split]
  rw [words_blank_append fun c member => blank c (List.mem_append_left behind member),
    words_append_blank fun c member => blank c (List.mem_append_right front member)]

/-- An unpadded text of one word is that word: white space inside would leave a
word on either side. -/
theorem oneSpaced_eq_iff {t word : Text} (isWord : IsWord word) (bare : Unpadded t) :
    oneSpaced t = word ↔ t = word := by
  constructor
  · intro same
    have single : words t = [word] := by rw [← words_oneSpaced, same, words_of_isWord isWord]
    by_cases solid : forall c, c ∈ t -> isBlank c = false
    · by_cases nothing : t = []
      · rw [nothing] at single
        cases single
      · rw [words_of_isWord ⟨nothing, solid⟩] at single
        exact (List.cons.inj single).1
    · simp only [not_forall, Bool.not_eq_false] at solid
      rcases solid with ⟨c, member, blank⟩
      rcases List.append_of_mem member with ⟨front, behind, rfl⟩
      have first : words front ≠ [] := by
        cases front with
        | nil => exact absurd (bare.1 c rfl) (by simp [blank])
        | cons d more => exact words_ne_nil List.mem_cons_self (bare.1 d rfl)
      have last : words behind ≠ [] := by
        cases final : behind.getLast? with
        | none =>
            rw [List.getLast?_eq_none_iff.mp final] at bare
            exact absurd (bare.2 c (by simp)) (by simp [blank])
        | some d =>
            exact words_ne_nil (List.mem_of_getLast? final)
              (bare.2 d (by simp [List.getLast?_cons, final]))
      have split : words (front ++ c :: behind) = words front ++ words behind := by
        rw [words, splitWhere_append blank, List.filter_append]
        rfl
      have size := congrArg List.length (split.symm.trans single)
      have sizeFirst := List.length_pos_iff.mpr first
      have sizeLast := List.length_pos_iff.mpr last
      rw [List.length_append, List.length_singleton] at size
      omega
  · rintro rfl
    rw [oneSpaced, words_of_isWord isWord, join_singleton]

end Text
end SchemaAtlas
