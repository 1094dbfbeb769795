import SchemaAtlas.Proofs.Phrase.Replacing

namespace SchemaAtlas
namespace Phrase

/-!
Searching a text of two parts.

A phrase is looked for from the left, so it is found in the first part if it begins there, even
where it ends in the second one.  Only if it begins nowhere in the first part does the second part
decide alone; and then a replacement leaves the first part as it is.
-/

variable {α : Type}

/-- The end of the first part from the first place on at which the phrase stands. -/
def firstWithin (p : Phrase α) (behind : Text) : Text -> Option Text
  | [] => none
  | c :: rest =>
      if holds p (c :: rest ++ behind) then some (c :: rest) else firstWithin p behind rest

theorem holds_eq_false_iff {p : Phrase α} {t : Text} : holds p t = false ↔ p t = [] := by
  simp [holds]

theorem exists_mem_of_holds {p : Phrase α} {t : Text} (reads : holds p t = true) :
    exists reading, reading ∈ p t := by
  cases readings : p t with
  | nil => simp [holds, readings] at reads
  | cons reading others => exact ⟨reading, List.mem_cons_self⟩

theorem eq_nil_of_mem_atEnd {t : Text} {reading : Unit × Text} (ended : reading ∈ atEnd t) :
    t = [] := by
  cases t with
  | nil => rfl
  | cons c rest => cases ended

theorem firstWithin_cons_eq_none_iff {p : Phrase α} {behind : Text} {c : Char} {rest : Text} :
    firstWithin p behind (c :: rest) = none ↔ p (c :: rest ++ behind) = [] ∧
      firstWithin p behind rest = none := by
  rw [firstWithin, ← holds_eq_false_iff]
  cases holds p (c :: rest ++ behind) with
  | true => simp
  | false => simp

/-- The phrase begins nowhere in two texts just if it begins in neither. -/
theorem firstWithin_append_eq_none {p : Phrase α} {first second behind : Text}
    (inFirst : firstWithin p (second ++ behind) first = none)
    (inSecond : firstWithin p behind second = none) :
    firstWithin p behind (first ++ second) = none := by
  induction first with
  | nil => exact inSecond
  | cons c rest ih =>
      rcases firstWithin_cons_eq_none_iff.mp inFirst with ⟨absent, later⟩
      rw [List.cons_append, firstWithin_cons_eq_none_iff]
      refine ⟨?_, ih later⟩
      rwa [List.cons_append, List.append_assoc, ← List.cons_append]

theorem firstWithin_eq_none_of_forall {p : Phrase α} {behind front : Text}
    (absent : forall c, c ∈ front -> forall rest, p (c :: rest) = []) :
    firstWithin p behind front = none := by
  induction front with
  | nil => rfl
  | cons c rest ih =>
      rw [firstWithin_cons_eq_none_iff]
      exact ⟨absent c List.mem_cons_self _,
        ih fun d member => absent d (List.mem_cons_of_mem c member)⟩

/-- The second part decides where the phrase begins nowhere in the first one. -/
theorem search?_append_of_none {p : Phrase α} {front behind : Text}
    (nowhere : firstWithin p behind front = none) :
    search? p (front ++ behind) = search? p behind := by
  induction front with
  | nil => rfl
  | cons c rest ih =>
      rcases firstWithin_cons_eq_none_iff.mp nowhere with ⟨absent, later⟩
      rw [List.cons_append] at absent ⊢
      rw [search?, absent]
      exact ih later

/-- Otherwise what stands before the first place is passed over. -/
theorem search?_append_of_some {p : Phrase α} {front behind ending : Text}
    (found : firstWithin p behind front = some ending) :
    search? p (front ++ behind) = search? p (ending ++ behind) := by
  induction front with
  | nil => cases found
  | cons c rest ih =>
      rw [firstWithin] at found
      cases here : holds p (c :: rest ++ behind) with
      | true =>
          rw [here, if_pos rfl, Option.some.injEq] at found
          rw [found]
      | false =>
          rw [here, if_neg Bool.false_ne_true] at found
          rw [List.cons_append] at here ⊢
          rw [search?, holds_eq_false_iff.mp here]
          exact ih found

/-- What a phrase does not touch is written as it is. -/
theorem replaceAfter_append_of_none {p : Phrase α} {replacement front behind : Text}
    (nowhere : firstWithin p behind front = none) (before : Option Char) :
    replaceAfter (fun _ => p) replacement before (front ++ behind) =
      front ++ replaceAfter (fun _ => p) replacement none behind := by
  induction front generalizing before with
  | nil => exact replaceAfter_congr (p := fun _ => p) rfl behind
  | cons c rest ih =>
      rcases firstWithin_cons_eq_none_iff.mp nowhere with ⟨absent, later⟩
      rw [List.cons_append] at absent ⊢
      rw [replaceAfter_of_eq_nil absent, ih later, List.cons_append]

/-! Spelled words. -/

/-- A word that is read is spelled there. -/
theorem exists_spelled_of_mem_letters {word t : Text} {reading : Unit × Text}
    (member : reading ∈ letters word t) :
    exists spelled, spells word spelled = true ∧ t = spelled ++ reading.2 := by
  induction word generalizing t with
  | nil =>
      obtain rfl := List.mem_singleton.mp member
      exact ⟨[], rfl, rfl⟩
  | cons w word ih =>
      cases t with
      | nil => cases member
      | cons c rest =>
          rw [letters, bind_apply, charWhere] at member
          cases same : Text.sameLetter w c with
          | false => simp [same] at member
          | true =>
              rw [same, if_pos rfl, List.flatMap_singleton] at member
              rcases ih member with ⟨spelled, spells, split⟩
              exact ⟨c :: spelled, by simp [Phrase.spells, same, spells], congrArg (c :: ·) split⟩

theorem exists_space_of_mem_blanks1 {t : Text} {reading : Unit × Text}
    (member : reading ∈ blanks1 t) :
    exists space, space ≠ [] ∧ (forall c, c ∈ space -> Text.isBlank c = true) ∧
      t = space ++ reading.2 := by
  rw [blanks1, bind_apply] at member
  cases t with
  | nil => simp [charWhere] at member
  | cons c rest =>
      rw [charWhere] at member
      cases blank : Text.isBlank c with
      | false => simp [blank] at member
      | true =>
          rw [blank, if_pos rfl, List.flatMap_singleton, blanks, List.mem_singleton] at member
          subst member
          refine ⟨c :: rest.takeWhile Text.isBlank, List.cons_ne_nil _ _, ?_, ?_⟩
          · intro d inside
            rcases List.mem_cons.mp inside with rfl | later
            · exact blank
            · exact List.mem_takeWhile_imp later
          · rw [Text.trimStart, List.cons_append, List.takeWhile_append_dropWhile]

/-- So is a keyword, with white space behind it. -/
theorem exists_spelled_of_mem_keyword {word t : Text} {reading : Unit × Text}
    (member : reading ∈ keyword word t) :
    exists spelled space, spells word spelled = true ∧ space ≠ [] ∧
      (forall c, c ∈ space -> Text.isBlank c = true) ∧ t = spelled ++ (space ++ reading.2) := by
  rw [keyword, bind_apply] at member
  rcases List.mem_flatMap.mp member with ⟨middle, inWord, inSpace⟩
  rcases exists_spelled_of_mem_letters inWord with ⟨spelled, spells, split⟩
  rcases exists_space_of_mem_blanks1 inSpace with ⟨space, nonempty, blank, behind⟩
  exact ⟨spelled, space, spells, nonempty, blank, by rw [split, behind]⟩

/-! White space is no letter. -/

/-- No white space is one of the letters of the word. -/
def unspaced (word : Text) : Bool :=
  (Text.charsIn Text.blankIntervals).all fun c => word.all fun w => !Text.sameLetter w c

theorem sameLetter_of_unspaced {word : Text} (checked : unspaced word = true) {c w : Char}
    (blank : Text.isBlank c = true) (member : w ∈ word) : Text.sameLetter w c = false := by
  have apart := List.all_eq_true.mp
    (List.all_eq_true.mp checked c (Text.mem_charsIn blank)) w member
  simpa using apart

/-- A spelled word has no white space either. -/
theorem isBlank_of_spells {word spelled : Text} (same : spells word spelled = true)
    (checked : unspaced word = true) : forall c, c ∈ spelled -> Text.isBlank c = false := by
  intro c member
  rw [Bool.eq_false_iff]
  intro blank
  have apart : forall w, w ∈ word -> Text.sameLetter w c = false :=
    fun w => sameLetter_of_unspaced checked blank
  clear checked blank
  induction word generalizing spelled with
  | nil =>
      cases spelled with
      | nil => cases member
      | cons d more => cases same
  | cons w word ih =>
      cases spelled with
      | nil => cases same
      | cons d more =>
          have parts := Bool.and_eq_true_iff.mp same
          rcases List.mem_cons.mp member with rfl | later
          · rw [apart w List.mem_cons_self] at parts
            cases parts.1
          · exact ih parts.2 later fun v inside => apart v (List.mem_cons_of_mem w inside)

end Phrase
end SchemaAtlas
