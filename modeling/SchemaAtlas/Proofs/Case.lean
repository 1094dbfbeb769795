import Mathlib.Data.List.Basic
import SchemaAtlas.Proofs.Phrase
import SchemaAtlas.Text.Case

namespace SchemaAtlas
namespace Text

/-!
Which characters a change of case may come from.

Outside ASCII a character is written for several characters, or moved by the distance of its row, or
stays.  Each of the two tables is finite, so it can be checked that it leads to no character of a
given kind.  What is looked for in upper or lower case is then known to stand in the text itself.
-/

theorem toNat_ofNat_cases (n : Nat) : (Char.ofNat n).toNat = n ∨ (Char.ofNat n).toNat = 0 := by
  by_cases valid : n.isValidChar
  · rw [Char.ofNat, dif_pos valid]
    exact .inl rfl
  · rw [Char.ofNat, dif_neg valid]
    exact .inr rfl

/-- The form of the character of a row. -/
def CaseRun.moved (run : CaseRun) (n : Nat) : Nat :=
  ((n : Int) + run.shift).toNat

theorem CaseRun.bounds_of_holds {run : CaseRun} {n : Nat} (held : run.holds n = true) :
    run.first ≤ n ∧ n ≤ run.last ∧ (n - run.first) % run.step = 0 := by
  simp only [CaseRun.holds, Bool.and_eq_true, decide_eq_true_eq, beq_iff_eq] at held
  exact ⟨held.1.1, held.1.2, held.2⟩

theorem CaseRun.moved_mono {run : CaseRun} {m n : Nat} (le : m ≤ n) :
    run.moved m ≤ run.moved n := by
  unfold CaseRun.moved
  omega

/-- The other-case form of a character: an entry of the expansions, or one character, which is
the character itself or stands at the distance of a row that holds the character. -/
theorem mapCase_cases (runs : List CaseRun) (expansions : List (Nat × List Nat)) (c : Char) :
    (exists entry, entry ∈ expansions ∧ mapCase runs expansions c = entry.2.map Char.ofNat) ∨
      exists d, mapCase runs expansions c = [d] ∧ (d = c ∨ d.toNat = 0 ∨ exists run, run ∈ runs ∧
        run.holds c.toNat = true ∧ d.toNat = run.moved c.toNat) := by
  unfold mapCase
  split
  · rename_i found
    exact .inl ⟨_, List.mem_of_find?_eq_some found, rfl⟩
  · split
    · rename_i run found
      have held := List.find?_some found
      refine .inr ⟨_, rfl, ?_⟩
      rcases toNat_ofNat_cases (run.moved c.toNat) with shifted | gone
      · exact .inr (.inr ⟨run, List.mem_of_find?_eq_some found, held, shifted⟩)
      · exact .inr (.inl gone)
    · exact .inr ⟨c, rfl, .inl rfl⟩

theorem mapCase_ne_nil {runs : List CaseRun} {expansions : List (Nat × List Nat)}
    (filled : expansions.all (fun entry => !entry.2.isEmpty) = true) (c : Char) :
    mapCase runs expansions c ≠ [] := by
  rcases mapCase_cases runs expansions c with ⟨entry, listed, form⟩ | ⟨d, form, _⟩
  · rw [form]
    simpa using List.all_eq_true.mp filled entry listed
  · rw [form]
    exact List.cons_ne_nil _ _

/-! Upper case. -/

theorem upperChar_ne_nil (c : Char) : upperChar c ≠ [] := by
  unfold upperChar
  split
  · exact List.cons_ne_nil _ _
  · exact mapCase_ne_nil (by decide) c

/-- No form of a row belongs to another row, where two rows may take every
second character in turn. -/
def CaseRun.misses (run other : CaseRun) : Bool :=
  Nat.blt (run.moved run.last) other.first || Nat.blt other.last (run.moved run.first) ||
    ((run.step == 2 || run.first == run.last) && other.step == 2 &&
      (run.moved run.first + other.first) % 2 == 1)

theorem CaseRun.holds_moved {run other : CaseRun} (apart : run.misses other = true)
    (positive : 0 ≤ (run.first : Int) + run.shift) {n : Nat} (held : run.holds n = true) :
    other.holds (run.moved n) = false := by
  rcases bounds_of_holds held with ⟨first, last, steps⟩
  have low : run.moved run.first ≤ run.moved n := moved_mono first
  have high : run.moved n ≤ run.moved run.last := moved_mono last
  rw [Bool.eq_false_iff]
  intro inOther
  rcases bounds_of_holds inOther with ⟨firstOther, lastOther, stepsOther⟩
  simp only [misses, Bool.or_eq_true, Bool.and_eq_true, Nat.blt_eq, beq_iff_eq] at apart
  rcases apart with (above | below) | ⟨⟨paired, pairedOther⟩, odd⟩
  · omega
  · omega
  · rw [pairedOther] at stepsOther
    have even : (run.moved n - run.moved run.first) % 2 = 0 := by
      rcases paired with two | single
      · rw [two] at steps
        unfold moved
        omega
      · have same : n = run.first := by omega
        rw [same, Nat.sub_self]
    omega

/-- The forms of a row stand for themselves: those of ASCII are capital letters, and the others
have neither an expansion nor a place in a row. -/
def CaseRun.isUpper (run : CaseRun) : Bool :=
  decide (0 ≤ (run.first : Int) + run.shift) &&
    (Nat.ble 0x80 (run.moved run.first) ||
      (Nat.ble 0x41 (run.moved run.first) && Nat.ble (run.moved run.last) 0x5A)) &&
    upperRuns.all run.misses &&
    upperExpansions.all fun entry =>
      Nat.blt (run.moved run.last) entry.1 || Nat.blt entry.1 (run.moved run.first)

/-- What is checked of the tables of upper case, and of ASCII: the forms stay what they are and
are no white space, and white space stays what it is. -/
structure UpperFacts : Prop where
  runsStay : upperRuns.all CaseRun.isUpper = true
  expansionsStay :
    (upperExpansions.all fun entry =>
      (entry.2.map Char.ofNat).all fun d => upperChar d == [d]) = true
  asciiStays : forall n, n < 0x80 -> upperChar (Char.ofNat n).toUpper = [(Char.ofNat n).toUpper]
  capitalsStay : forall n, n < 0x5B -> 0x41 ≤ n -> (Char.ofNat n).toUpper = Char.ofNat n
  runsSolid : (upperRuns.all fun run => blankIntervals.all fun interval =>
    Nat.blt (run.moved run.last) interval.1 || Nat.blt interval.2 (run.moved run.first)) = true
  expansionsSolid :
    (upperExpansions.all fun entry => (entry.2.map Char.ofNat).all fun d => !isBlank d) = true
  asciiSolid : forall n, n < 0x80 -> isBlank (Char.ofNat n) = false ->
    isBlank (Char.ofNat n).toUpper = false
  blanksStay : (charsIn blankIntervals).all (fun c => upperChar c == [c]) = true

theorem upperFacts : UpperFacts where
  runsStay := by decide +kernel
  expansionsStay := by decide +kernel
  asciiStays := by decide +kernel
  capitalsStay := by decide +kernel
  runsSolid := by decide +kernel
  expansionsSolid := by decide +kernel
  asciiSolid := by decide +kernel
  blanksStay := by decide +kernel

/-- An upper-case form is its own. -/
theorem upperChar_of_mem {c d : Char} (member : d ∈ upperChar c) : upperChar d = [d] := by
  unfold upperChar at member
  split at member
  · rename_i small
    have here := upperFacts.asciiStays c.toNat small
    rw [Char.ofNat_toNat] at here
    rw [List.mem_singleton.mp member]
    exact here
  · rename_i large
    rcases mapCase_cases upperRuns upperExpansions c with ⟨entry, inTable, same⟩ | ⟨e, same, origin⟩
    · rw [same] at member
      have stays := List.all_eq_true.mp upperFacts.expansionsStay entry inTable
      exact beq_iff_eq.mp (List.all_eq_true.mp stays d member)
    · rw [same] at member
      obtain rfl := List.mem_singleton.mp member
      rcases origin with rfl | gone | ⟨run, inTable, held, moved⟩
      · rw [upperChar, if_neg large, same]
      · have zero : d = Char.ofNat 0 := by rw [← Char.ofNat_toNat d, gone]
        rw [zero]
        decide
      · have facts := List.all_eq_true.mp upperFacts.runsStay run inTable
        simp only [CaseRun.isUpper, Bool.and_eq_true, Bool.or_eq_true, decide_eq_true_eq,
          Nat.ble_eq] at facts
        rcases facts with ⟨⟨⟨positive, range⟩, apart⟩, unexpanded⟩
        rcases CaseRun.bounds_of_holds held with ⟨first, last, _⟩
        have low : run.moved run.first ≤ d.toNat := moved ▸ CaseRun.moved_mono first
        have high : d.toNat ≤ run.moved run.last := moved ▸ CaseRun.moved_mono last
        rw [upperChar]
        split
        · rename_i small
          have here := upperFacts.capitalsStay d.toNat (by omega) (by omega)
          rw [Char.ofNat_toNat] at here
          rw [here]
        · have noForm : upperExpansions.find? (·.1 == d.toNat) = none := by
            rw [List.find?_eq_none]
            intro entry listed same
            have outside := List.all_eq_true.mp unexpanded entry listed
            simp only [Bool.or_eq_true, Nat.blt_eq] at outside
            have equal := beq_iff_eq.mp same
            omega
          have noRun : upperRuns.find? (·.holds d.toNat) = none := by
            rw [List.find?_eq_none]
            intro other listed inOther
            have outside := CaseRun.holds_moved
              (List.all_eq_true.mp apart other listed) positive held
            rw [← moved, inOther] at outside
            cases outside
          rw [mapCase, noForm, noRun]

theorem upper_upper (t : Text) : upper (upper t) = upper t := by
  have each : forall forms : Text,
      (forall d, d ∈ forms -> upperChar d = [d]) -> upper forms = forms := by
    intro forms fixed
    induction forms with
    | nil => rfl
    | cons d more ih =>
        change upperChar d ++ upper more = d :: more
        rw [fixed d List.mem_cons_self, ih fun e member => fixed e (List.mem_cons_of_mem d member)]
        rfl
  refine each (upper t) fun d member => ?_
  rcases List.mem_flatMap.mp member with ⟨c, _, inForm⟩
  exact upperChar_of_mem inForm

/-- Upper case makes no white space. -/
theorem isBlank_of_mem_upperChar {c d : Char} (solid : isBlank c = false)
    (member : d ∈ upperChar c) : isBlank d = false := by
  unfold upperChar at member
  split at member
  · rename_i small
    have here := upperFacts.asciiSolid c.toNat small
    rw [Char.ofNat_toNat] at here
    rw [List.mem_singleton.mp member]
    exact here solid
  · rcases mapCase_cases upperRuns upperExpansions c with ⟨entry, inTable, same⟩ | ⟨e, same, origin⟩
    · rw [same] at member
      simpa using List.all_eq_true.mp
        (List.all_eq_true.mp upperFacts.expansionsSolid entry inTable) d member
    · rw [same] at member
      obtain rfl := List.mem_singleton.mp member
      rcases origin with rfl | gone | ⟨run, inTable, held, moved⟩
      · exact solid
      · have zero : d = Char.ofNat 0 := by rw [← Char.ofNat_toNat d, gone]
        rw [zero]
        decide
      · rcases CaseRun.bounds_of_holds held with ⟨first, last, _⟩
        have low : run.moved run.first ≤ d.toNat := moved ▸ CaseRun.moved_mono first
        have high : d.toNat ≤ run.moved run.last := moved ▸ CaseRun.moved_mono last
        rw [isBlank, inIntervals, List.any_eq_false]
        intro interval listed
        have apart := List.all_eq_true.mp (List.all_eq_true.mp upperFacts.runsSolid run inTable)
          interval listed
        simp only [Bool.or_eq_true, Nat.blt_eq] at apart
        simp only [Bool.and_eq_true, decide_eq_true_eq]
        omega

theorem upper_append (first second : Text) :
    upper (first ++ second) = upper first ++ upper second :=
  List.flatMap_append

theorem upper_ne_nil {t : Text} (nonempty : t ≠ []) : upper t ≠ [] := by
  cases t with
  | nil => exact absurd rfl nonempty
  | cons c rest => exact List.append_ne_nil_of_left_ne_nil (upperChar_ne_nil c) _

theorem upperChar_of_isBlank {c : Char} (blank : isBlank c = true) : upperChar c = [c] :=
  beq_iff_eq.mp (List.all_eq_true.mp upperFacts.blanksStay c (mem_charsIn blank))

/-- White space separates the same words in upper case. -/
theorem splitWhere_upper (t : Text) :
    splitWhere isBlank (upper t) = (splitWhere isBlank t).map upper := by
  induction t with
  | nil => rfl
  | cons c rest ih =>
      change splitWhere isBlank (upperChar c ++ upper rest) = _
      cases blank : isBlank c with
      | true =>
          rw [upperChar_of_isBlank blank, List.singleton_append, splitWhere, if_pos blank, ih,
            splitWhere, if_pos blank]
          rfl
      | false =>
          -- the form of the character goes on with the first piece of what follows
          have fronted : forall form : Text, (forall d, d ∈ form -> isBlank d = false) ->
              forall piece pieces, splitWhere isBlank (upper rest) = piece :: pieces ->
                splitWhere isBlank (form ++ upper rest) = (form ++ piece) :: pieces := by
            intro form solid piece pieces split
            induction form with
            | nil => exact split
            | cons d more later =>
                have behind := later fun e member => solid e (List.mem_cons_of_mem d member)
                simp [splitWhere, solid d List.mem_cons_self, behind]
          rcases exists_splitWhere_eq_cons isBlank rest with ⟨pieces, split⟩
          rw [split, List.map_cons] at ih
          rw [fronted _ (fun d member => isBlank_of_mem_upperChar blank member) _ _ ih]
          simp only [splitWhere, blank, split, Bool.false_eq_true, if_false, List.map_cons]
          rfl

theorem words_upper (t : Text) : words (upper t) = (words t).map upper := by
  rw [words, splitWhere_upper, List.filter_map, words]
  congr 1
  refine List.filter_congr fun piece _ => ?_
  cases piece with
  | nil => rfl
  | cons c rest =>
      have filled := List.isEmpty_eq_false_iff.mpr (upper_ne_nil (List.cons_ne_nil c rest))
      simp [Function.comp, filled]

theorem oneSpaced_upper (t : Text) : oneSpaced (upper t) = upper (oneSpaced t) := by
  have joined : forall parts : List Text,
      join [' '] (parts.map upper) = upper (join [' '] parts) := by
    intro parts
    induction parts with
    | nil => rfl
    | cons first rest ih =>
        cases rest with
        | nil => rw [List.map_singleton, join_singleton, join_singleton]
        | cons second rest =>
            rw [List.map_cons, List.map_cons, join_cons_cons, join_cons_cons, upper_append,
              upper_append, ← ih]
            rfl
  rw [oneSpaced, words_upper, joined, oneSpaced]

theorem unpadded_upper {t : Text} (bare : Unpadded t) : Unpadded (upper t) := by
  constructor
  · intro c found
    cases t with
    | nil => cases found
    | cons d rest =>
        change (upperChar d ++ upper rest).head? = some c at found
        cases form : upperChar d with
        | nil => exact absurd form (upperChar_ne_nil d)
        | cons e more =>
            rw [form] at found
            obtain rfl : e = c := Option.some.inj found
            exact isBlank_of_mem_upperChar (bare.1 d rfl) (form ▸ List.mem_cons_self)
  · intro c found
    rcases List.eq_nil_or_concat t with rfl | ⟨front, d, rfl⟩
    · cases found
    · rw [List.concat_eq_append] at found bare
      have last : upper (front ++ [d]) = upper front ++ upperChar d := by
        rw [upper_append]
        exact congrArg (upper front ++ ·) (List.append_nil _)
      rw [last, List.getLast?_append_of_ne_nil _ (upperChar_ne_nil d)] at found
      exact isBlank_of_mem_upperChar (bare.2 d (by simp)) (List.mem_of_getLast? found)

/-- No text gets shorter in upper case. -/
theorem length_le_upper (t : Text) : t.length ≤ (upper t).length := by
  induction t with
  | nil => exact Nat.le_refl _
  | cons c rest ih =>
      have some : 0 < (upperChar c).length := List.length_pos_iff.mpr (upperChar_ne_nil c)
      change rest.length + 1 ≤ (upperChar c ++ upper rest).length
      rw [List.length_append]
      omega

/-- The letters of the word for nothing, in upper case. -/
def nullLetters : List Char :=
  ['N', 'U', 'L']

/-- The characters that may stand for a letter or a sign of ASCII. -/
def asciiLike : List Char :=
  (List.range 0x80).map Char.ofNat ++ ['\u0130', '\u0131', '\u017f', '\u212a']

/-- The capital letters that stand in upper case for a letter of a word. -/
def capitals (w : Char) : List Char :=
  (letterKey w).toUpper ::
    if letterKey w == 'i' then ['\u0130'] else if letterKey w == 'k' then ['\u212a'] else []

/-- The letters of ASCII that no character of another script becomes in lower case. -/
def plainLetters : List Char :=
  "abcdefghjlmnopqrstuvwxyz".toList

/-- What is checked of the letters of some words: which characters become one of them,
and what becomes of these. -/
structure LetterFacts : Prop where
  nullExpansions : (upperExpansions.all fun entry =>
    (entry.2.map Char.ofNat).head?.all fun d => !nullLetters.contains d) = true
  nullRuns : (upperRuns.all fun run => nullLetters.all fun d =>
    decide ((d.toNat : Int) - run.shift < 0x80 ∨ (d.toNat : Int) - run.shift < run.first ∨
      (run.last : Int) < d.toNat - run.shift)) = true
  nullAscii : forall n, n < 0x80 -> (Char.ofNat n).toUpper ∈ nullLetters ->
    sameLetter (Char.ofNat n).toUpper.toLower (Char.ofNat n) = true
  keysAscii : forall n, n < 0x80 -> (letterKey (Char.ofNat n)).toNat < 0x80
  capitalForms : (asciiLike.all fun c => (capitals c).any fun d => upperChar c == [d]) = true
  plainExpansions : (lowerExpansions.all fun entry =>
    (entry.2.map Char.ofNat).head?.all fun d => !plainLetters.contains d) = true
  plainRuns : (lowerRuns.all fun run => Nat.blt run.last 0x80 ||
    Nat.ble 0x80 (run.moved run.first) ||
    (run.moved run.first == 'k'.toNat && run.moved run.last == 'k'.toNat)) = true
  plainAscii : forall n, n < 0x80 -> upperChar (Char.ofNat n) = [(Char.ofNat n).toLower.toUpper]
  parenExpansions : (lowerExpansions.all fun entry => !(entry.2.map Char.ofNat).contains '(') = true
  parenRuns : (lowerRuns.all fun run => decide ('('.toNat < (run.first : Int) + run.shift)) = true
  parenAscii : forall n, n < 0x80 -> (Char.ofNat n).toLower = '(' -> Char.ofNat n = '('

theorem letterFacts : LetterFacts where
  nullExpansions := by decide +kernel
  nullRuns := by decide +kernel
  nullAscii := by decide +kernel
  keysAscii := by decide +kernel
  capitalForms := by decide +kernel
  plainExpansions := by decide +kernel
  plainRuns := by decide +kernel
  plainAscii := by decide +kernel
  parenExpansions := by decide +kernel
  parenRuns := by decide +kernel
  parenAscii := by decide +kernel

theorem toNat_of_mem_nullLetters {x : Char} (listed : x ∈ nullLetters) :
    0 < x.toNat ∧ x.toNat < 0x80 := by
  have checked : (nullLetters.all fun d => decide (0 < d.toNat ∧ d.toNat < 0x80)) =
    true := by decide
  exact of_decide_eq_true (List.all_eq_true.mp checked x listed)

/-- In upper case only the ASCII letters themselves begin with one of them. -/
theorem sameLetter_of_upperChar {c x : Char} {more : Text} (form : upperChar c = x :: more)
    (listed : x ∈ nullLetters) : more = [] ∧ sameLetter x.toLower c = true := by
  have bounds := toNat_of_mem_nullLetters listed
  unfold upperChar at form
  split at form
  · rename_i small
    have here := letterFacts.nullAscii c.toNat small
    rw [Char.ofNat_toNat] at here
    rcases List.cons.inj form with ⟨rfl, rfl⟩
    exact ⟨rfl, here listed⟩
  · rename_i large
    rcases mapCase_cases upperRuns upperExpansions c with ⟨entry, inTable, same⟩ | ⟨d, same, origin⟩
    · have outside := List.all_eq_true.mp letterFacts.nullExpansions entry inTable
      rw [← same, form, List.head?_cons, Option.all_some,
        List.contains_iff_mem.mpr listed] at outside
      cases outside
    · obtain rfl := (List.cons.inj (same.symm.trans form)).1
      rcases origin with rfl | gone | ⟨run, inTable, held, moved⟩
      · exact absurd bounds.2 large
      · omega
      · have clear := List.all_eq_true.mp letterFacts.nullRuns run inTable
        have apart := of_decide_eq_true (List.all_eq_true.mp clear d listed)
        rcases CaseRun.bounds_of_holds held with ⟨first, last, _⟩
        unfold CaseRun.moved at moved
        omega

/-- A text that is a word of these letters in upper case spells it. -/
theorem spells_of_upper {word t : Text} (letters : forall x, x ∈ word -> x ∈ nullLetters)
    (same : upper t = word) : Phrase.spells (word.map Char.toLower) t = true := by
  induction word generalizing t with
  | nil =>
      have short := length_le_upper t
      rw [same] at short
      rw [List.length_eq_zero_iff.mp (Nat.le_zero.mp short)]
      rfl
  | cons x word ih =>
      cases t with
      | nil => cases same
      | cons c rest =>
          have first : upperChar c ++ upper rest = x :: word := same
          cases form : upperChar c with
          | nil => exact absurd form (upperChar_ne_nil c)
          | cons d more =>
              rw [form, List.cons_append, List.cons.injEq] at first
              rcases first with ⟨rfl, behind⟩
              rcases sameLetter_of_upperChar form (letters d List.mem_cons_self) with ⟨rfl, letter⟩
              have later := ih (fun y member => letters y (List.mem_cons_of_mem d member)) behind
              simp [Phrase.spells, letter, later]

/-! Spelled words in upper case. -/

theorem upper_of_blank {space : Text} (blank : forall c, c ∈ space -> isBlank c = true) :
    upper space = space := by
  induction space with
  | nil => rfl
  | cons c rest ih =>
      change upperChar c ++ upper rest = c :: rest
      rw [upperChar_of_isBlank (blank c List.mem_cons_self),
        ih fun d member => blank d (List.mem_cons_of_mem c member)]
      rfl

theorem mem_asciiLike_of_sameLetter {w c : Char} (ascii : w.toNat < 0x80)
    (same : sameLetter w c = true) : c ∈ asciiLike := by
  by_cases small : c.toNat < 0x80
  · refine List.mem_append_left _
      (List.mem_map.mpr ⟨c.toNat, List.mem_range.mpr small, Char.ofNat_toNat c⟩)
  · have key := letterFacts.keysAscii w.toNat ascii
    rw [Char.ofNat_toNat, beq_iff_eq.mp same] at key
    by_contra outside
    have others : c ∉ ['\u0130', '\u0131', '\u017f', '\u212a'] := fun listed =>
      outside (List.mem_append_right _ listed)
    simp only [List.mem_cons, List.not_mem_nil, or_false, not_or] at others
    have noCapital : ¬ (c.val ≥ 65 ∧ c.val ≤ 90) := by
      rintro ⟨_, bound⟩
      have : c.val.toNat ≤ 90 := bound
      exact small (Nat.lt_of_le_of_lt this (by decide))
    have lowered : c.toLower = c := dif_neg noCapital
    have itself : letterKey c = c := by simp [letterKey, others, lowered]
    rw [itself] at key
    exact small key

theorem exists_capital {w c : Char} (ascii : w.toNat < 0x80) (same : sameLetter w c = true) :
    exists d, d ∈ capitals w ∧ upperChar c = [d] := by
  have here := List.all_eq_true.mp letterFacts.capitalForms c
    (mem_asciiLike_of_sameLetter ascii same)
  have one : capitals w = capitals c := by rw [capitals, beq_iff_eq.mp same, capitals]
  rcases List.any_eq_true.mp here with ⟨d, listed, equal⟩
  exact ⟨d, one.symm ▸ listed, beq_iff_eq.mp equal⟩

/-- The forms that a word may have in upper case, whichever letters spell it. -/
def capitalForms : Text -> List Text
  | [] => [[]]
  | w :: word => (capitals w).flatMap fun d => (capitalForms word).map (d :: ·)

theorem upper_mem_capitalForms {word spelled : Text} (ascii : forall w, w ∈ word -> w.toNat < 0x80)
    (same : Phrase.spells word spelled = true) : upper spelled ∈ capitalForms word := by
  induction word generalizing spelled with
  | nil =>
      cases spelled with
      | nil => exact List.mem_singleton.mpr rfl
      | cons c more => cases same
  | cons w word ih =>
      cases spelled with
      | nil => cases same
      | cons c more =>
          have parts := Bool.and_eq_true_iff.mp same
          rcases exists_capital (ascii w List.mem_cons_self) parts.1 with ⟨d, listed, form⟩
          have later := ih (fun v member => ascii v (List.mem_cons_of_mem w member)) parts.2
          refine List.mem_flatMap.mpr ⟨d, listed, List.mem_map.mpr ⟨upper more, later, ?_⟩⟩
          change d :: upper more = upperChar c ++ upper more
          rw [form]
          rfl

/-! Lower case. -/

theorem lowerChar_ne_nil (c : Char) : lowerChar c ≠ [] := by
  unfold lowerChar
  split
  · exact List.cons_ne_nil _ _
  · exact mapCase_ne_nil (by decide) c

/-- A character that becomes such a letter in lower case becomes the same letter in upper case. -/
theorem upperChar_of_lowerChar {c w : Char} {more : Text} (form : lowerChar c = w :: more)
    (listed : w ∈ plainLetters) : more = [] ∧ upperChar c = [w.toUpper] := by
  have small : forall d, d ∈ plainLetters -> 0 < d.toNat ∧ d.toNat < 0x80 ∧ d.toNat ≠ 'k'.toNat :=
    List.all_iff_forall_prop.mp (by decide)
  rcases small w listed with ⟨positive, ascii, other⟩
  unfold lowerChar at form
  split at form
  · rename_i low
    have here := letterFacts.plainAscii c.toNat low
    rw [Char.ofNat_toNat] at here
    rcases List.cons.inj form with ⟨rfl, rfl⟩
    exact ⟨rfl, here⟩
  · rename_i large
    rcases mapCase_cases lowerRuns lowerExpansions c with ⟨entry, inTable, same⟩ | ⟨d, same, origin⟩
    · have outside := List.all_eq_true.mp letterFacts.plainExpansions entry inTable
      rw [← same, form, List.head?_cons, Option.all_some,
        List.contains_iff_mem.mpr listed] at outside
      cases outside
    · obtain rfl := (List.cons.inj (same.symm.trans form)).1
      rcases origin with rfl | gone | ⟨run, inTable, held, moved⟩
      · exact absurd ascii large
      · omega
      · rcases CaseRun.bounds_of_holds held with ⟨first, last, _⟩
        have least : run.moved run.first ≤ d.toNat := moved ▸ CaseRun.moved_mono first
        have most : d.toNat ≤ run.moved run.last := moved ▸ CaseRun.moved_mono last
        have apart := List.all_eq_true.mp letterFacts.plainRuns run inTable
        simp only [Bool.or_eq_true, Bool.and_eq_true, Nat.blt_eq, Nat.ble_eq, beq_iff_eq] at apart
        omega

/-- A text that begins with a word of these letters in lower case begins with the
same word in upper case. -/
theorem startsWith_upper_of_lower {word t : Text} (letters : forall w, w ∈ word -> w ∈ plainLetters)
    (begins : startsWith (lower t) word = true) :
    startsWith (upper t) (word.map Char.toUpper) = true := by
  have after : forall before, startsWith (lowerAfter before t) word = true ->
      startsWith (upper t) (word.map Char.toUpper) = true := by
    clear begins
    induction word generalizing t with
    | nil =>
        intro before begins
        rfl
    | cons w word ih =>
        intro before begins
        have plain := letters w List.mem_cons_self
        cases t with
        | nil => cases begins
        | cons c rest =>
            rw [lowerAfter] at begins
            split at begins
            · -- neither of the two sigmas is one of the letters
              exfalso
              have outside : 'ς' ∉ plainLetters ∧ 'σ' ∉ plainLetters := by decide
              split at begins
              · rw [startsWith, List.isPrefixOf_iff_prefix] at begins
                rw [(List.cons_prefix_cons.mp begins).1] at plain
                exact outside.1 plain
              · rw [startsWith, List.isPrefixOf_iff_prefix] at begins
                rw [(List.cons_prefix_cons.mp begins).1] at plain
                exact outside.2 plain
            · cases form : lowerChar c with
              | nil => exact absurd form (lowerChar_ne_nil c)
              | cons d more =>
                  rw [form, List.cons_append, startsWith, List.isPrefixOf_iff_prefix,
                    List.cons_prefix_cons] at begins
                  rcases begins with ⟨rfl, behind⟩
                  rcases upperChar_of_lowerChar form plain with ⟨rfl, capital⟩
                  have later := ih (fun v member => letters v (List.mem_cons_of_mem w member)) _
                    (List.isPrefixOf_iff_prefix.mpr behind)
                  change startsWith (upperChar c ++ upper rest) _ = true
                  rw [capital]
                  simpa [startsWith] using later
  exact after [] begins

/-- No other character becomes a parenthesis in lower case: what is written for several
characters holds none, and a shift never leads that far down. -/
theorem eq_of_mem_lowerChar {c : Char} (member : '(' ∈ lowerChar c) : c = '(' := by
  have code : '('.toNat = 40 := rfl
  unfold lowerChar at member
  split at member
  · rename_i small
    have lower := letterFacts.parenAscii c.toNat small
    rw [Char.ofNat_toNat] at lower
    exact lower (List.mem_singleton.mp member).symm
  · rcases mapCase_cases lowerRuns lowerExpansions c with ⟨entry, inTable, same⟩ | ⟨d, same, origin⟩
    · have outside := List.all_eq_true.mp letterFacts.parenExpansions entry inTable
      rw [← same, List.contains_iff_mem.mpr member] at outside
      cases outside
    · rw [same] at member
      obtain rfl := List.mem_singleton.mp member
      rcases origin with rfl | gone | ⟨run, inTable, held, moved⟩
      · rfl
      · omega
      · have high := of_decide_eq_true (List.all_eq_true.mp letterFacts.parenRuns run inTable)
        have first := (CaseRun.bounds_of_holds held).1
        unfold CaseRun.moved at moved
        omega

theorem mem_of_mem_lower {t : Text} (member : '(' ∈ lower t) : '(' ∈ t := by
  have after : forall before : Text, '(' ∈ lowerAfter before t -> '(' ∈ t := by
    clear member
    induction t with
    | nil =>
        intro before member
        cases member
    | cons c rest ih =>
        intro before member
        rw [lowerAfter] at member
        rcases List.mem_append.mp member with here | later
        · split at here
          · split at here <;> simp at here
          · exact List.mem_cons.mpr (Or.inl (eq_of_mem_lowerChar here).symm)
        · exact List.mem_cons_of_mem c (ih _ later)
  exact after [] member

/-- No character of ASCII is the letter whose lower-case form depends on what stands around it. -/
theorem not_sigma_of_ascii {c : Char} (ascii : c.toNat < 0x80) : (c == 'Σ') = false := by
  apply beq_eq_false_iff_ne.mpr
  rintro rfl
  exact absurd ascii (by decide)

/-- ASCII characters that are small already stay. -/
theorem lower_of_forall {t : Text} (small : forall c, c ∈ t -> c.toNat < 0x80 ∧ c.toLower = c) :
    lower t = t := by
  have after : forall before, lowerAfter before t = t := by
    induction t with
    | nil => exact fun _ => rfl
    | cons c rest ih =>
        intro before
        rcases small c List.mem_cons_self with ⟨ascii, same⟩
        have lowered : lowerChar c = [c] := by rw [lowerChar, if_pos ascii, same]
        rw [lowerAfter, not_sigma_of_ascii ascii, lowered,
          ih fun d member => small d (List.mem_cons_of_mem _ member)]
        rfl
  exact after []

end Text
end SchemaAtlas
