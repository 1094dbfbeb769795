import SchemaAtlas.Proofs.Insert.Rows
import SchemaAtlas.Proofs.Name

namespace SchemaAtlas

/-!
Qualified names as they are written.

A part of a name stands by itself or in one of three pairs of quotes, and dots with any white space
around them join the parts.  Such a name is read in two ways.  One reader goes over its characters
and tells the dots between parts from those inside of quotes.  The other one is a phrase, which
takes up the name inside of a longer text as it is spelled.  Both read the same name.
-/

namespace Name

/-- How a part of a name is written: without quotes, or in one of three pairs of them. -/
inductive Style where
  | plain
  | backticks
  | doubleQuotes
  | brackets
deriving DecidableEq

namespace Style

def quotes? : Style -> Option (Char × Char)
  | .plain => none
  | .backticks => some ('\x60', '\x60')
  | .doubleQuotes => some ('"', '"')
  | .brackets => some ('[', ']')

/-- The part can be written this way: without quotes it holds letters, digits, underscores and
dollar signs only, and in quotes it does not hold the closing one. -/
def Admits (style : Style) (part : Text) : Prop :=
  match style.quotes? with
  | none => forall c, c ∈ part -> isIdentifierChar c = true ∨ c = '$'
  | some (_, closing) => closing ∉ part

def write (style : Style) (part : Text) : Text :=
  match style.quotes? with
  | none => part
  | some (opening, closing) => opening :: part ++ [closing]

end Style

/-- A part of a name together with the way in which it is written. -/
structure Part where
  text : Text
  style : Style
  filled : text ≠ []
  admitted : style.Admits text

def Part.written (p : Part) : Text :=
  p.style.write p.text

/-- A dot with white space around it. -/
structure Dot where
  before : Text
  behind : Text
  blankBefore : forall c, c ∈ before -> Text.isBlank c = true
  blankBehind : forall c, c ∈ behind -> Text.isBlank c = true

/-- A qualified name: its first part, and each further one with the dot in front of it. -/
structure Dotted where
  first : Part
  further : List (Dot × Part)

namespace Dotted

/-- The further parts of a name as they are written. -/
def writtenFurther (further : List (Dot × Part)) : Text :=
  further.flatMap fun next => next.1.before ++ '.' :: (next.1.behind ++ next.2.written)

def written (n : Dotted) : Text :=
  n.first.written ++ writtenFurther n.further

def parts (n : Dotted) : List Text :=
  n.first.text :: n.further.map fun next => next.2.text

end Dotted

/-! Characters of plain parts, quotes and white space. -/

theorem isPlainChar_of_isBlank {c : Char} (blank : Text.isBlank c = true) :
    isPlainChar c = false := by
  have apart : ((Text.charsIn Text.blankIntervals).all fun c => !isPlainChar c) = true := by
    decide +kernel
  simpa using List.all_eq_true.mp apart c (Text.mem_charsIn blank)

theorem closing?_of_isBlank {c : Char} (blank : Text.isBlank c = true) :
    closing? c = none ∧ c ≠ '.' := by
  have apart : ((Text.charsIn Text.blankIntervals).all fun c => closing? c == none && c != '.') =
    true := by decide +kernel
  simpa using List.all_eq_true.mp apart c (Text.mem_charsIn blank)

namespace Style

variable {style : Style} {part : Text}

/-- What is known of a pair of quotes. -/
theorem facts_of_quotes? {opening closing : Char}
    (quoted : style.quotes? = some (opening, closing)) :
    closing? opening = some closing ∧ Text.isBlank opening = false ∧
      Text.isBlank closing = false := by
  cases style with
  | plain => cases quoted
  | backticks =>
      cases quoted
      decide
  | doubleQuotes =>
      cases quoted
      decide
  | brackets =>
      cases quoted
      decide

/-- What is known of the characters of a plain part. -/
theorem Admits.plainFacts (admitted : style.Admits part) (unquoted : style.quotes? = none)
    {c : Char} (member : c ∈ part) :
    isPlainChar c = true ∧ Text.isBlank c = false ∧ closing? c = none ∧ c ≠ '.' := by
  simp only [Admits, unquoted] at admitted
  rcases admitted c member with char | rfl
  · have apart : forall d, isIdentifierChar d = false -> c ≠ d := fun d => ne_of_identifierChar char
    refine ⟨by simp [isPlainChar, isWordChar_of_identifierChar char],
      isBlank_of_identifierChar char, ?_, apart '.' (by decide)⟩
    simp [closing?, apart '\x60' (by decide), apart '"' (by decide), apart '[' (by decide)]
  · decide

end Style

namespace Part

variable (p : Part)

theorem written_ne_nil : p.written ≠ [] := by
  rw [written, Style.write]
  split
  · exact p.filled
  · simp

/-- Quotes and the characters of plain parts are no white space. -/
theorem unpadded : Text.Unpadded p.written := by
  rw [written, Style.write]
  split
  · rename_i unquoted
    exact Text.unpadded_of_forall fun c member => (p.admitted.plainFacts unquoted member).2.1
  · rename_i opening closing quoted
    have facts := Style.facts_of_quotes? quoted
    exact Text.unpadded_enclosed facts.2.1 facts.2.2 p.text

/-- A part begins with no white space, whatever follows. -/
theorem head_not_blank (rest : Text) :
    forall c, (p.written ++ rest).head? = some c -> Text.isBlank c = false := by
  intro c found
  have bare := p.unpadded.1 c
  cases text : p.written with
  | nil => exact absurd text p.written_ne_nil
  | cons d more =>
      rw [text] at found bare
      exact bare found

/-- A part in quotes is given back without them, and a plain one as it is. -/
theorem stripQuotes_between_blanks {front behind : Text}
    (blankFront : forall c, c ∈ front -> Text.isBlank c = true)
    (blankBehind : forall c, c ∈ behind -> Text.isBlank c = true) :
    stripQuotes (front ++ (p.written ++ behind)) = p.text := by
  rw [stripQuotes, Text.trim_between_blanks blankFront blankBehind p.unpadded p.written_ne_nil,
    written, Style.write]
  split
  · rename_i unquoted
    have bare : isEnclosed p.text = false := by
      cases text : p.text with
      | nil => rfl
      | cons c rest =>
          have none := (p.admitted.plainFacts unquoted (c := c) (by simp [text])).2.2.1
          cases rest with
          | nil => rfl
          | cons d more => simp [isEnclosed, none]
    rw [bare, if_neg Bool.false_ne_true]
  · rename_i opening closing quoted
    have pair := (Style.facts_of_quotes? quoted).1
    have enclosed : isEnclosed (opening :: p.text ++ [closing]) = true := by
      cases text : p.text with
      | nil => simp [isEnclosed, pair]
      | cons c rest =>
          have last : (c :: (rest ++ [closing])).getLastD c = closing := by
            rw [List.getLastD_eq_getLast?, ← List.cons_append, List.getLast?_concat]
            rfl
          simp only [List.cons_append, isEnclosed, pair, last, beq_self_eq_true]
    rw [if_pos enclosed]
    simp [withoutEnds]

end Part

/-! The pieces of a name between its dots. -/

/-- No dot of the text cuts, and no quotes stay open behind it. -/
def Uncut (t : Text) : Prop :=
  forall rest, dottedPieces none (t ++ rest) = t.foldr ontoFirst (dottedPieces none rest)

theorem Uncut.append {first second : Text} (uncut : Uncut first) (uncutToo : Uncut second) :
    Uncut (first ++ second) := by
  intro rest
  rw [List.append_assoc, uncut, uncutToo, List.foldr_append]

theorem uncut_of_forall {t : Text} (each : forall c, c ∈ t -> closing? c = none ∧ c ≠ '.') :
    Uncut t := by
  intro rest
  induction t with
  | nil => rfl
  | cons c t ih =>
      have here := each c List.mem_cons_self
      have later := ih fun d member => each d (List.mem_cons_of_mem c member)
      simp [dottedPieces, here.1, here.2, later]

theorem uncut_of_blank {space : Text} (blank : forall c, c ∈ space -> Text.isBlank c = true) :
    Uncut space :=
  uncut_of_forall fun c member => closing?_of_isBlank (blank c member)

/-- Quotes stay open up to their closing character. -/
theorem dottedPieces_inside {closing : Char} {t : Text} (free : closing ∉ t) (rest : Text) :
    dottedPieces (some closing) (t ++ closing :: rest) =
      (t ++ [closing]).foldr ontoFirst (dottedPieces none rest) := by
  induction t with
  | nil => simp [dottedPieces]
  | cons c t ih =>
      have other : ¬ c = closing := fun same => free (by simp [same])
      have later := ih fun member => free (List.mem_cons_of_mem c member)
      simp [dottedPieces, other, later]

theorem Part.uncut (p : Part) : Uncut p.written := by
  rw [written, Style.write]
  split
  · rename_i unquoted
    exact uncut_of_forall fun c member => (p.admitted.plainFacts unquoted member).2.2
  · rename_i opening closing quoted
    have free : closing ∉ p.text := by
      have admitted := p.admitted
      rwa [Style.Admits, quoted] at admitted
    intro rest
    have inside := dottedPieces_inside free rest
    rw [List.cons_append, List.cons_append, dottedPieces, (Style.facts_of_quotes? quoted).1,
      List.append_assoc, List.singleton_append]
    exact congrArg (ontoFirst opening) inside

namespace Dotted

/-- The pieces between the dots, where some text that cuts nothing stands in
front of the first part. -/
def piecesFrom (front : Text) (p : Part) : List (Dot × Part) -> List Text
  | [] => [front ++ p.written]
  | (dot, next) :: further =>
      (front ++ (p.written ++ dot.before)) :: piecesFrom dot.behind next further

theorem dottedPieces_written {front : Text} (uncut : Uncut front) (p : Part)
    (further : List (Dot × Part)) :
    dottedPieces none (front ++ (p.written ++ writtenFurther further)) =
      piecesFrom front p further := by
  induction further generalizing front p with
  | nil =>
      have whole := (uncut.append p.uncut) []
      rw [List.append_nil] at whole
      simpa [writtenFurther, piecesFrom, dottedPieces, Insert.foldr_ontoFirst] using whole
  | cons next further ih =>
      rcases next with ⟨dot, next⟩
      have later := ih (uncut_of_blank dot.blankBehind) next
      have split : front ++ (p.written ++ writtenFurther ((dot, next) :: further)) =
          (front ++ (p.written ++ dot.before)) ++
            '.' :: (dot.behind ++ (next.written ++ writtenFurther further)) := by
        simp [writtenFurther]
      have cut : dottedPieces none
          ('.' :: (dot.behind ++ (next.written ++ writtenFurther further))) =
          [] :: piecesFrom dot.behind next further := by
        rw [dottedPieces, ← later]
        rfl
      rw [split, uncut.append (p.uncut.append (uncut_of_blank dot.blankBefore)), cut,
        Insert.foldr_ontoFirst, List.append_nil, piecesFrom]

theorem map_stripQuotes_piecesFrom
    {front : Text} (blank : forall c, c ∈ front -> Text.isBlank c = true) (p : Part)
    (further : List (Dot × Part)) :
    (piecesFrom front p further).map stripQuotes = p.text :: further.map fun next =>
      next.2.text := by
  induction further generalizing front p with
  | nil =>
      have nothing : forall c, c ∈ ([] : Text) -> Text.isBlank c = true := by simp
      have stripped := p.stripQuotes_between_blanks blank nothing
      rw [List.append_nil] at stripped
      rw [piecesFrom, List.map_singleton, stripped, List.map_nil]
  | cons next further ih =>
      rw [piecesFrom, List.map_cons, p.stripQuotes_between_blanks blank next.1.blankBefore,
        ih next.1.blankBehind]
      rfl

theorem unpadded_further (p : Part) (further : List (Dot × Part)) :
    Text.Unpadded (p.written ++ writtenFurther further) := by
  induction further generalizing p with
  | nil => simpa [writtenFurther] using p.unpadded
  | cons next further ih =>
      rcases next with ⟨dot, next⟩
      have split : p.written ++ writtenFurther ((dot, next) :: further) =
          (p.written ++ (dot.before ++ '.' :: dot.behind)) ++
            (next.written ++ writtenFurther further) := by
        simp [writtenFurther]
      rw [split]
      exact Text.unpadded_append (by simp) (by simp [next.written_ne_nil]) (p.head_not_blank _)
        (ih next).2

/-- A qualified name is cut into its parts, whatever dots and quotes they hold. -/
theorem parts_written (n : Dotted) : Name.parts n.written = n.parts := by
  have nothing : forall c, c ∈ ([] : Text) -> Text.isBlank c = true := by simp
  have pieces := dottedPieces_written (uncut_of_blank nothing) n.first n.further
  have stripped := map_stripQuotes_piecesFrom nothing n.first n.further
  have filled : forall part, part ∈ n.parts -> (!part.isEmpty) = true := by
    intro part member
    have some : part ≠ [] := by
      rcases List.mem_cons.mp member with rfl | later
      · exact n.first.filled
      · rcases List.mem_map.mp later with ⟨next, _, rfl⟩
        exact next.2.filled
    simpa using some
  rw [List.nil_append] at pieces
  rw [Name.parts, written, Text.trim_of_unpadded (unpadded_further n.first n.further),
    pieces, stripped]
  exact List.filter_eq_self.mpr filled

end Dotted

/-! The phrase of a name. -/

/-- White space of any length, taken whole. -/
theorem prefers_blanks {space t : Text} (blank : forall c, c ∈ space -> Text.isBlank c = true)
    (bare : forall c, t.head? = some c -> Text.isBlank c = false) :
    Phrase.Prefers Phrase.blanks (space ++ t) () t := by
  have trimmed : Text.trimStart (space ++ t) = t := by
    rw [Text.trimStart, List.dropWhile_append_of_pos blank, Text.dropWhile_of_head bare]
  rw [Phrase.Prefers, Phrase.blanks, trimmed]
  rfl

namespace Part

variable (p : Part)

/-- A part is read whole where no plain character follows. -/
theorem prefers_partPhrase {rest : Text}
    (boundary : forall c, rest.head? = some c -> isPlainChar c = false) :
    Phrase.Prefers partPhrase (p.written ++ rest) () rest := by
  rcases p with ⟨text, style, filled, admitted⟩
  have quoted : forall opening closing : Char, closing ∉ text ->
      Phrase.Prefers (Phrase.enclosed opening closing)
        (opening :: text ++ [closing] ++ rest) text rest := by
    intro opening closing free
    apply Phrase.prefers_of_singleton
    rw [List.append_assoc, List.cons_append]
    exact Phrase.enclosed_append filled free rest
  cases style with
  | plain =>
      have each : forall c, c ∈ text -> isPlainChar c = true ∧ closing? c = none := fun c member =>
        ⟨(admitted.plainFacts rfl member).1, (admitted.plainFacts rfl member).2.2.1⟩
      have unquoted : forall opening closing : Char, closing? opening ≠ none ->
          Phrase.enclosed opening closing (text ++ rest) = [] := by
        intro opening closing opens
        cases text with
        | nil => exact absurd rfl filled
        | cons c more =>
            have other : c ≠ opening := by
              rintro rfl
              exact opens (each c List.mem_cons_self).2
            simp [Phrase.enclosed, other]
      have run := Phrase.prefers_runWhere filled (fun c member => (each c member).1) boundary
      exact Phrase.prefers_bind
        (Phrase.prefers_either_right (unquoted _ _ (by decide))
          (Phrase.prefers_either_right (unquoted _ _ (by decide))
            (Phrase.prefers_either_right (unquoted _ _ (by decide)) run)))
        (Phrase.prefers_give () rest)
  | backticks =>
      exact Phrase.prefers_bind (Phrase.prefers_either_left _ (quoted _ _ admitted))
        (Phrase.prefers_give () rest)
  | doubleQuotes =>
      exact Phrase.prefers_bind
        (Phrase.prefers_either_right rfl (Phrase.prefers_either_left _ (quoted _ _ admitted)))
        (Phrase.prefers_give () rest)
  | brackets =>
      exact Phrase.prefers_bind
        (Phrase.prefers_either_right rfl
          (Phrase.prefers_either_right rfl (Phrase.prefers_either_left _ (quoted _ _ admitted))))
        (Phrase.prefers_give () rest)

end Part

namespace Dotted

/-- Behind a part stands white space, a dot, or what follows the name. -/
theorem head_further {rest : Text} (further : List (Dot × Part)) {c : Char}
    (found : (writtenFurther further ++ rest).head? = some c) :
    Text.isBlank c = true ∨ c = '.' ∨ rest.head? = some c := by
  cases further with
  | nil => exact .inr (.inr found)
  | cons next further =>
      cases before : next.1.before with
      | nil => exact .inr (.inl (by simpa [writtenFurther, before] using found.symm))
      | cons d space =>
          obtain rfl : d = c := by simpa [writtenFurther, before] using found
          exact .inl (next.1.blankBefore d (by simp [before]))

theorem boundary_further {rest : Text}
    (boundary : forall c, rest.head? = some c -> isPlainChar c = false)
    (further : List (Dot × Part)) :
    forall c, (writtenFurther further ++ rest).head? = some c -> isPlainChar c = false := by
  intro c found
  rcases head_further further found with blank | rfl | behind
  · exact isPlainChar_of_isBlank blank
  · decide
  · exact boundary c behind

theorem prefers_furtherPart (dot : Dot) (next : Part) {rest : Text}
    (boundary : forall c, rest.head? = some c -> isPlainChar c = false) :
    Phrase.Prefers furtherPart (dot.before ++ '.' :: (dot.behind ++ (next.written ++ rest)))
      () rest := by
  have point : Phrase.Prefers (Phrase.char '.') ('.' :: (dot.behind ++ (next.written ++ rest))) ()
      (dot.behind ++ (next.written ++ rest)) := rfl
  exact Phrase.prefers_bind (prefers_blanks dot.blankBefore (Text.fails_at_head '.' _ (by decide)))
    (Phrase.prefers_bind point
      (Phrase.prefers_bind (prefers_blanks dot.blankBehind (next.head_not_blank rest))
        (next.prefers_partPhrase boundary)))

theorem prefers_repeated {rest : Text}
    (boundary : forall c, rest.head? = some c -> isPlainChar c = false)
    (undotted : furtherPart rest = []) (further : List (Dot × Part)) :
    Phrase.Prefers (Phrase.repeated furtherPart) (writtenFurther further ++ rest) () rest := by
  induction further with
  | nil => exact Phrase.prefers_repeated_absent undotted
  | cons next further ih =>
      have here := prefers_furtherPart next.1 next.2 (boundary_further boundary further)
      have text : writtenFurther (next :: further) ++ rest =
          next.1.before ++
            '.' :: (next.1.behind ++ (next.2.written ++ (writtenFurther further ++ rest))) := by
        simp [writtenFurther]
      rw [text]
      refine Phrase.prefers_repeated_step here ?_ ih
      simp only [List.length_append, List.length_cons]
      omega

theorem head_not_blank (n : Dotted) (rest : Text) :
    forall c, (n.written ++ rest).head? = some c -> Text.isBlank c = false := by
  rw [written, List.append_assoc]
  exact n.first.head_not_blank _

/-- A qualified name is taken up as it is spelled, where neither a plain
character nor a dot follows. -/
theorem prefers_spelling (n : Dotted) {rest : Text}
    (boundary : forall c, rest.head? = some c -> isPlainChar c = false)
    (undotted : furtherPart rest = []) :
    Phrase.Prefers spelling (n.written ++ rest) n.written rest := by
  have first := n.first.prefers_partPhrase (boundary_further boundary n.further)
  have whole : Phrase.Prefers (do partPhrase; Phrase.repeated furtherPart) (n.written ++ rest)
      () rest := by
    rw [written, List.append_assoc]
    exact Phrase.prefers_bind first (prefers_repeated boundary undotted n.further)
  exact Phrase.prefers_bind (Phrase.prefers_spanned whole) (Phrase.prefers_give _ rest)

end Dotted

end Name
end SchemaAtlas
