import SchemaAtlas.Dialect.TypeText
import SchemaAtlas.Proofs.Case
import SchemaAtlas.Proofs.Name

namespace SchemaAtlas

/-!
The name of a type, taken apart again.

Whatever a type is, its name has no parameters: taken apart by itself it is the name and nothing
else.  White space around a type is never read, and what stands behind a clean name is read as its
parameters as they are written.  The mapping of types goes through the name twice, and what it
writes is read as a type once more, so both are needed.
-/

namespace Text

theorem words_trimStart (t : Text) : words (trimStart t) = words t := by
  conv => rhs; rw [← List.takeWhile_append_dropWhile (p := isBlank) (l := t)]
  exact (words_blank_append (fun c member => List.mem_takeWhile_imp member) _).symm

theorem isBlank_of_trimStart_eq_nil {t : Text} (nothing : trimStart t = []) :
    forall c, c ∈ t -> isBlank c = true :=
  List.dropWhile_eq_nil_iff.mp nothing

end Text

namespace TypeText

open Text

/-! White space around a type. -/

theorem tail?_append_blank {space : Text} (blank : forall c, c ∈ space -> isBlank c = true)
    (t : Text) : tail? (t ++ space) = tail? t := by
  have nothing : trimStart space = [] := List.dropWhile_eq_nil_iff.mpr blank
  have start : trimStart (t ++ space) = if (trimStart t).isEmpty then []
      else trimStart t ++ space := by
    rw [trimStart, List.dropWhile_append, ← trimStart, ← trimStart, nothing]
  rw [tail?, start, tail?]
  cases trimStart t with
  | nil => rfl
  | cons c inner =>
      simp only [List.isEmpty_cons, Bool.false_eq_true, if_false, List.cons_append,
        trimEnd_append_blank blank]

theorem tail?_of_blank {space : Text} (blank : forall c, c ∈ space -> isBlank c = true) :
    tail? space = some none :=
  tail?_append_blank blank []

theorem nameAndTail?_append_blank
    {space : Text} (blank : forall c, c ∈ space -> isBlank c = true) (reversed t : Text) :
    nameAndTail? reversed (t ++ space) = nameAndTail? reversed t := by
  induction t generalizing reversed with
  | nil =>
      cases space with
      | nil => rfl
      | cons c rest => simp only [List.nil_append, nameAndTail?, tail?_of_blank blank]
  | cons c rest ih =>
      rw [List.cons_append, nameAndTail?, ← List.cons_append, tail?_append_blank blank, ih,
        nameAndTail?]

theorem written?_trim (t : Text) : written? (trim t) = written? t := by
  rcases exists_append_trim_append t with ⟨front, behind, blank, split⟩
  have blankBehind := fun c member => blank c (List.mem_append_right front member)
  have start : trimStart t = trimStart (trim t ++ behind) := by
    conv => lhs; rw [split]
    exact List.dropWhile_append_of_pos fun c member => blank c (List.mem_append_left behind member)
  have bare := unpadded_trim t
  rw [written?, written?, start, trimStart_of_unpadded bare]
  cases shape : trim t with
  | nil =>
      have nothing : trimStart behind = [] := List.dropWhile_eq_nil_iff.mpr blankBehind
      rw [List.nil_append, nothing]
  | cons c rest =>
      have solid : isBlank c = false := bare.1 c (by rw [shape]; rfl)
      have kept : trimStart (c :: rest ++ behind) = c :: (rest ++ behind) :=
        dropWhile_of_head (fails_at_head c _ solid)
      rw [kept]
      simp only [nameAndTail?_append_blank blankBehind]

theorem ofText_trim (t : Text) : ofText (trim t) = ofText t := by
  rw [ofText, written?_trim, trim_of_unpadded (unpadded_trim t), ofText]

/-! Names. -/

/-- A character that the name of a type may hold. -/
def isNameChar (c : Char) : Bool :=
  isWordChar c || c == ' '

/-- The name of a type as it stands when a type is taken apart. -/
structure IsName (t : Text) : Prop where
  begins : exists c rest, t = c :: rest ∧ (c.isAlpha || c == '_') = true
  chars : forall c, c ∈ t -> isNameChar c = true
  spaced : oneSpaced t = t

instance (t : Text) : Decidable (IsName t) :=
  decidable_of_iff ((t.head?.any fun c => c.isAlpha || c == '_') = true ∧ t.all isNameChar = true ∧
    oneSpaced t = t) (by
    constructor
    · rintro ⟨first, chars, spaced⟩
      refine ⟨?_, List.all_eq_true.mp chars, spaced⟩
      cases t with
      | nil => cases first
      | cons c rest => exact ⟨c, rest, rfl, first⟩
    · rintro ⟨⟨c, rest, rfl, first⟩, chars, spaced⟩
      exact ⟨first, List.all_eq_true.mpr chars, spaced⟩)

theorem isIdentifierChar_of_begins {c : Char} (begins : (c.isAlpha || c == '_') = true) :
    Name.isIdentifierChar c = true := by
  simp only [Bool.or_eq_true] at begins
  rcases begins with letter | underscore
  · simp [Name.isIdentifierChar, Char.isAlphanum, letter]
  · simp [Name.isIdentifierChar, underscore]

theorem nameAndTail?_eq_some {reversed t name : Text} {params : Option Text}
    (found : nameAndTail? reversed t = some (name, params)) :
    exists more behind, t = more ++ behind ∧ name = reversed.reverse ++ more ∧
      (forall c, c ∈ more -> isNameChar c = true) ∧ tail? behind = some params := by
  induction t generalizing reversed with
  | nil =>
      obtain ⟨rfl, rfl⟩ : reversed.reverse = name ∧ none = params := by
        simpa [nameAndTail?] using found
      exact ⟨[], [], rfl, by simp, by simp, rfl⟩
  | cons c rest ih =>
      rw [nameAndTail?] at found
      split at found
      · rename_i inside ending
        obtain ⟨rfl, rfl⟩ : reversed.reverse = name ∧ inside = params := by simpa using found
        exact ⟨[], c :: rest, rfl, by simp, by simp, ending⟩
      · split at found
        · rename_i further
          rcases ih found with ⟨more, behind, rfl, rfl, chars, ending⟩
          refine ⟨c :: more, behind, rfl, by simp, ?_, ending⟩
          intro d member
          rcases List.mem_cons.mp member with rfl | later
          · exact further
          · exact chars d later
        · cases found

theorem written?_eq_some {t name : Text} {params : Option Text}
    (found : written? t = some (name, params)) :
    exists behind, trimStart t = name ++ behind ∧ tail? behind = some params ∧
      (exists c rest, name = c :: rest ∧ (c.isAlpha || c == '_') = true) ∧
        forall c, c ∈ name -> isNameChar c = true := by
  rw [written?] at found
  split at found
  · rename_i c rest start
    split at found
    · rename_i begins
      rcases nameAndTail?_eq_some found with ⟨more, behind, rfl, rfl, chars, ending⟩
      refine ⟨behind, start, ending, ⟨c, more, rfl, begins⟩, ?_⟩
      intro d member
      rcases List.mem_cons.mp member with rfl | later
      · simp [isNameChar, Name.isWordChar_of_identifierChar (isIdentifierChar_of_begins begins)]
      · exact chars d later
    · cases found
  · cases found

/-- A text that begins with a solid character begins with it when its words are joined. -/
theorem exists_oneSpaced_cons {c : Char} (solid : isBlank c = false) (rest : Text) :
    exists more, oneSpaced (c :: rest) = c :: more := by
  rcases exists_splitWhere_eq_cons isBlank (c :: rest) with ⟨pieces, split⟩
  have first : words (c :: rest) =
      (c :: rest.takeWhile fun c => !isBlank c) :: pieces.filter fun piece => !piece.isEmpty := by
    simp [words, split, solid]
  rw [oneSpaced, first]
  cases pieces.filter fun piece => !piece.isEmpty with
  | nil => exact ⟨_, join_singleton _ _⟩
  | cons second others => exact ⟨_, by rw [join_cons_cons, List.append_assoc, List.cons_append]⟩

theorem isName_oneSpaced {name : Text}
    (begins : exists c rest, name = c :: rest ∧ (c.isAlpha || c == '_') = true)
    (chars : forall c, c ∈ name -> isNameChar c = true) : IsName (oneSpaced name) := by
  rcases begins with ⟨c, rest, rfl, letter⟩
  rcases exists_oneSpaced_cons (Name.isBlank_of_identifierChar (isIdentifierChar_of_begins letter))
    rest with ⟨more, shape⟩
  refine ⟨⟨c, more, shape, letter⟩, ?_, by rw [oneSpaced, words_oneSpaced, oneSpaced]⟩
  intro d member
  rcases mem_join member with space | ⟨part, listed, inside⟩
  · obtain rfl := List.mem_singleton.mp space
    decide
  · exact chars d (mem_of_mem_splitWhere (List.mem_filter.mp listed).1 d inside).1

/-! Reading a name. -/

/-- No type ends where a part of its name still follows. -/
theorem tail?_eq_none {t behind : Text} (chars : forall c, c ∈ t -> isNameChar c = true) {c : Char}
    (member : c ∈ t) (solid : isBlank c = false) : tail? (t ++ behind) = none := by
  induction t with
  | nil => cases member
  | cons d rest ih =>
      cases blank : isBlank d with
      | true =>
          have later : c ∈ rest := by
            rcases List.mem_cons.mp member with rfl | later
            · rw [blank] at solid
              cases solid
            · exact later
          have skipped : tail? (d :: (rest ++ behind)) = tail? (rest ++ behind) := by
            rw [tail?, trimStart, List.dropWhile_cons_of_pos blank, ← trimStart, tail?]
          rw [List.cons_append, skipped,
            ih (fun e inside => chars e (List.mem_cons_of_mem d inside)) later]
      | false =>
          have kept : trimStart (d :: (rest ++ behind)) = d :: (rest ++ behind) :=
            dropWhile_of_head (fails_at_head d _ blank)
          have noParen : (d == '(') = false := by
            rw [beq_eq_false_iff_ne]
            rintro rfl
            exact absurd (chars '(' List.mem_cons_self) (by decide)
          rw [List.cons_append, tail?, kept]
          simp only [noParen, Bool.false_and, Bool.false_eq_true, if_false]

theorem nameAndTail?_append {t behind : Text} {params : Option Text}
    (chars : forall c, c ∈ t -> isNameChar c = true)
    (bare : forall c, t.getLast? = some c -> isBlank c = false)
    (ending : tail? behind = some params) (reversed : Text) :
    nameAndTail? reversed (t ++ behind) = some (reversed.reverse ++ t, params) := by
  induction t generalizing reversed with
  | nil =>
      cases behind with
      | nil =>
          obtain rfl : none = params := by simpa [tail?, trimStart] using ending
          simp [nameAndTail?]
      | cons c rest => simp [nameAndTail?, ending]
  | cons c rest ih =>
      have last : exists d, (c :: rest).getLast? = some d := by simp [List.getLast?_cons]
      rcases last with ⟨d, final⟩
      have goesOn : tail? (c :: rest ++ behind) = none :=
        tail?_eq_none chars (List.mem_of_getLast? final) (bare d final)
      have here := chars c List.mem_cons_self
      have later := ih (fun e member => chars e (List.mem_cons_of_mem c member)) ?_ (c :: reversed)
      · rw [List.cons_append] at goesOn ⊢
        rw [nameAndTail?, goesOn]
        rw [isNameChar] at here
        simp only [here, if_true, later, List.reverse_cons, List.append_assoc,
          List.singleton_append]
      · intro e found
        refine bare e ?_
        cases rest with
        | nil => cases found
        | cons f more => rw [List.getLast?_cons_cons]; exact found

/-- Behind a name the parameters are read as they are written. -/
theorem ofText_append {name behind : Text} {params : Option Text} (isName : IsName name)
    (ending : tail? behind = some params) :
    ofText (name ++ behind) = ⟨name, params.map fun inside =>
      if isValueList (upper name) then trim inside else withoutBlanks inside⟩ := by
  have bare : Unpadded name := isName.spaced ▸ unpadded_oneSpaced name
  rcases isName.begins with ⟨c, rest, rfl, letter⟩
  have kept : trimStart (c :: (rest ++ behind)) = c :: (rest ++ behind) :=
    dropWhile_of_head (fails_at_head c _ (bare.1 c rfl))
  have written : written? (c :: rest ++ behind) = some (c :: rest, params) := by
    rw [List.cons_append, written?, kept]
    simp only [letter, if_true]
    refine nameAndTail?_append
      (fun d member => isName.chars d (List.mem_cons_of_mem c member)) ?_ ending [c]
    intro d found
    refine bare.2 d ?_
    cases rest with
    | nil => cases found
    | cons f more => rw [List.getLast?_cons_cons]; exact found
  rw [ofText, written]
  simp only [isName.spaced]

theorem ofText_of_isName {name : Text} (isName : IsName name) : ofText name = ⟨name, none⟩ := by
  have nothing : tail? [] = some none := rfl
  have whole := ofText_append isName nothing
  rwa [List.append_nil] at whole

/-- The name of a type is a type without parameters. -/
theorem ofText_base (t : Text) : ofText (ofText t).base = ⟨(ofText t).base, none⟩ := by
  cases found : written? t with
  | none =>
      have itself : ofText t = ⟨trim t, none⟩ := by rw [ofText, found]
      rw [itself, ofText_trim, itself]
  | some parts =>
      rcases parts with ⟨name, params⟩
      have base : (ofText t).base = oneSpaced name := by rw [ofText, found]
      rcases written?_eq_some found with ⟨_, _, _, begins, chars⟩
      rw [base]
      exact ofText_of_isName (isName_oneSpaced begins chars)

/-- The parameters are made of characters of the type. -/
theorem mem_of_mem_params {t : Text} {c : Char} (member : c ∈ (ofText t).params.getD []) :
    c ∈ t := by
  have inStart : forall {u : Text}, c ∈ trimStart u -> c ∈ u :=
    fun inside => (List.dropWhile_sublist isBlank).subset inside
  have inEnd : forall {u : Text}, c ∈ trimEnd u -> c ∈ u := by
    intro u inside
    rcases exists_trimEnd_append u with ⟨space, _, split⟩
    rw [split]
    exact List.mem_append_left space inside
  cases found : written? t with
  | none =>
      rw [ofText, found] at member
      cases member
  | some parts =>
      rcases parts with ⟨name, params⟩
      rcases written?_eq_some found with ⟨behind, start, ending, _, _⟩
      have inBehind : c ∈ behind := by
        cases params with
        | none =>
            rw [ofText, found] at member
            cases member
        | some inside =>
            have raw : c ∈ inside := by
              rw [ofText, found] at member
              simp only [Option.map_some, Option.getD_some] at member
              split at member
              · exact inStart (inEnd member)
              · exact (List.mem_filter.mp member).1
            rw [tail?] at ending
            split at ending
            · cases ending
            · rename_i opening inner shape
              dsimp only at ending
              split at ending
              · obtain rfl : (trimEnd inner).dropLast = inside := by simpa using ending
                have within := inEnd ((List.dropLast_sublist _).subset raw)
                exact inStart (shape ▸ List.mem_cons_of_mem opening within)
              · cases ending
      exact inStart (start ▸ List.mem_append_right name inBehind)

/-- A type without parameters is its name, white space apart. -/
theorem base_of_params_eq_none {t : Text} (named : (ofText t).params = none) :
    (ofText t).base = trim t ∨ (ofText t).base = oneSpaced t := by
  cases found : written? t with
  | none => exact .inl (by rw [ofText, found])
  | some parts =>
      rcases parts with ⟨name, params⟩
      have parts : ofText t = ⟨oneSpaced name, params.map fun inside =>
          if isValueList (upper (oneSpaced name)) then trim inside else withoutBlanks inside⟩ := by
            rw [ofText, found]
      rcases written?_eq_some found with ⟨behind, start, ending, _, _⟩
      have unparametrized : params = none := by
        rw [parts] at named
        exact Option.map_eq_none_iff.mp named
      have blank : trimStart behind = [] := by
        rw [unparametrized, tail?] at ending
        split at ending
        · assumption
        · dsimp only at ending
          split at ending
          · cases ending
          · cases ending
      refine .inr ?_
      rw [parts]
      have same : words name = words t := by
        rw [← words_trimStart t, start, words_append_blank (isBlank_of_trimStart_eq_nil blank)]
      change oneSpaced name = oneSpaced t
      rw [oneSpaced, same, oneSpaced]

theorem unpadded_base (t : Text) : Unpadded (ofText t).base := by
  rw [ofText]
  split
  · exact unpadded_trim t
  · exact unpadded_oneSpaced _

theorem upper_trim_upper_base (t : Text) :
    upper (trim (upper (ofText t).base)) = upper (ofText t).base := by
  rw [trim_of_unpadded (unpadded_upper (unpadded_base t)), upper_upper]

/-- Whether a name holds truth values does not depend on its spaces or its case. -/
theorem isBoolean_upper_base {t : Text} (named : (ofText t).params = none) (length : Option Text) :
    isBoolean (upper (ofText t).base) length = isBoolean t length := by
  have words : IsWord "BIT".toList ∧ IsWord "BOOL".toList ∧ IsWord "TINYINT".toList :=
    ⟨⟨by decide, List.all_iff_forall_prop.mp (by decide)⟩,
      ⟨by decide, List.all_iff_forall_prop.mp (by decide)⟩,
      ⟨by decide, List.all_iff_forall_prop.mp (by decide)⟩⟩
  have spaced : oneSpaced t = oneSpaced (trim t) := by rw [oneSpaced, oneSpaced, words_trim]
  have shape : upper (ofText t).base = upper (trim t) ∨
      upper (ofText t).base = oneSpaced (upper (trim t)) := by
    rcases base_of_params_eq_none named with same | same
    · exact .inl (congrArg upper same)
    · exact .inr (by rw [same, spaced, oneSpaced_upper])
  have alike : forall word, IsWord word ->
      (oneSpaced (upper (trim t)) == word) = (upper (trim t) == word) := by
    intro word isWord
    rw [Bool.eq_iff_iff, beq_iff_eq,
      beq_iff_eq, oneSpaced_eq_iff isWord (unpadded_upper (unpadded_trim t))]
  simp only [isBoolean, upper_trim_upper_base]
  rcases shape with same | same
  · simp only [same]
  · simp only [same, alike _ words.1, alike _ words.2.2, has_oneSpaced words.2.1]

theorem isBoolean_of_has {t : Text} (named : (ofText t).params = none)
    (found : has "BOOL".toList (upper (ofText t).base) = true) (length : Option Text) :
    isBoolean t length = true := by
  have noBit : (upper (ofText t).base == "BIT".toList) = false := by
    rw [beq_eq_false_iff_ne]
    intro same
    rw [same] at found
    exact absurd found (by decide)
  rw [← isBoolean_upper_base named]
  simp only [isBoolean, upper_trim_upper_base, noBit, found, Bool.false_eq_true, if_false, if_true]

end TypeText
end SchemaAtlas
