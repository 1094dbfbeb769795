import SchemaAtlas.Name.Phrase
import SchemaAtlas.Proofs.Phrase

namespace SchemaAtlas
namespace Name

/-!
Identifiers: names of ASCII letters, digits and underscores that do not begin with a digit.

An identifier needs no quotes.  It stands for itself wherever a name is read, and it holds none of
the characters that separate names from one another.
-/

def isIdentifierChar (c : Char) : Bool :=
  c.isAlphanum || c == '_'

/-- An identifier of ASCII. -/
structure IsIdentifier (name : Text) : Prop where
  begins : ∃ c rest, name = c :: rest ∧ c.isDigit = false
  chars : forall c, c ∈ name -> isIdentifierChar c = true

theorem isIdentifier_of_checked {name : Text} (first : (name.head?.any fun c => !c.isDigit) = true)
    (all : name.all isIdentifierChar = true) : IsIdentifier name := by
  cases name with
  | nil => cases first
  | cons c rest => exact ⟨⟨c, rest, rfl, by simpa using first⟩, List.all_eq_true.mp all⟩

theorem identifierChar_bounds {c : Char} (member : isIdentifierChar c = true) :
    (48 ≤ c.toNat ∧ c.toNat ≤ 57) ∨ (65 ≤ c.toNat ∧ c.toNat ≤ 90) ∨ c.toNat = 95 ∨
      (97 ≤ c.toNat ∧ c.toNat ≤ 122) := by
  change ((decide ('A'.val ≤ c.val ∧ c.val ≤ 'Z'.val) ||
    (decide ('a'.val ≤ c.val) && decide (c.val ≤ 'z'.val))) ||
    (decide ('0'.val ≤ c.val) && decide (c.val ≤ '9'.val)) || c == '_') = true at member
  simp only [Bool.or_eq_true, Bool.and_eq_true, decide_eq_true_eq, beq_iff_eq,
    UInt32.le_iff_toNat_le] at member
  rcases member with ((upper | lower) | digit) | rfl
  · exact Or.inr (Or.inl upper)
  · exact Or.inr (Or.inr (Or.inr lower))
  · exact Or.inl digit
  · exact Or.inr (Or.inr (Or.inl rfl))

theorem isWordChar_of_identifierChar {c : Char} (member : isIdentifierChar c = true) :
    Text.isWordChar c = true := by
  have bounds := identifierChar_bounds member
  have ascii : c.toNat < 0x80 := by omega
  simp only [Text.isWordChar, Text.isAlphanumeric, if_pos ascii]
  exact member

theorem isBlank_of_identifierChar {c : Char} (member : isIdentifierChar c = true) :
    Text.isBlank c = false := by
  have bounds := identifierChar_bounds member
  simp only [Text.isBlank, Text.inIntervals, Text.blankIntervals, List.any_cons, List.any_nil,
    Bool.or_false, Bool.or_eq_false_iff, Bool.and_eq_false_iff, decide_eq_false_iff_not]
  omega

theorem ne_of_identifierChar {c d : Char} (member : isIdentifierChar c = true)
    (outside : isIdentifierChar d = false) : c ≠ d := by
  rintro rfl
  rw [member] at outside
  cases outside

theorem unpadded_backticks (name : Text) : Text.Unpadded ('\x60' :: name ++ ['\x60']) :=
  Text.unpadded_enclosed (by decide) (by decide) name

/-- Any text in backticks is given back without them. -/
theorem stripQuotes_backticks (name : Text) : stripQuotes ('\x60' :: name ++ ['\x60']) = name := by
  have enclosed : isEnclosed ('\x60' :: name ++ ['\x60']) = true := by
    cases name with
    | nil => rfl
    | cons c rest =>
        have last : ((c :: rest) ++ ['\x60']).getLastD c = '\x60' := by
          rw [List.getLastD_eq_getLast?, List.getLast?_concat]
          rfl
        rw [List.cons_append] at last
        simp only [List.cons_append, isEnclosed, last]
        decide
  simp only [stripQuotes, Text.trim_of_unpadded (unpadded_backticks name), enclosed, if_true]
  simp [withoutEnds]

/-- Any text as a name in backticks, where inner backticks are written twice. -/
def backticked (t : Text) : Text :=
  '\x60' :: Text.double '\x60' t ++ ['\x60']

namespace IsIdentifier

variable {name : Text}

theorem ne_nil (identifier : IsIdentifier name) : name ≠ [] := by
  rcases identifier.begins with ⟨c, rest, rfl, _⟩
  simp

theorem not_mem (identifier : IsIdentifier name) {d : Char} (outside : isIdentifierChar d = false) :
    d ∉ name :=
  fun member => ne_of_identifierChar (identifier.chars d member) outside rfl

theorem unpadded (identifier : IsIdentifier name) : Text.Unpadded name :=
  Text.unpadded_of_forall fun c member => isBlank_of_identifierChar (identifier.chars c member)

theorem unbroken (identifier : IsIdentifier name) : Text.Unbroken name :=
  Text.unbroken_of_forall identifier.chars (by decide) (by decide)

theorem head_not_blank (identifier : IsIdentifier name) (rest : Text) :
    forall c, (name ++ rest).head? = some c -> Text.isBlank c = false := by
  intro c found
  rcases identifier.begins with ⟨d, more, rfl, _⟩
  exact identifier.unpadded.1 c found

theorem closing?_eq_none (identifier : IsIdentifier name) {c : Char} (member : c ∈ name) :
    closing? c = none := by
  have char := identifier.chars c member
  have backtick := ne_of_identifierChar char (d := '\x60') (by decide)
  have quote := ne_of_identifierChar char (d := '"') (by decide)
  have bracket := ne_of_identifierChar char (d := '[') (by decide)
  simp [closing?, backtick, quote, bracket]

/-- Only the outer white space of an identifier is taken away. -/
theorem stripQuotes_blank_append (identifier : IsIdentifier name) (space : Text)
    (blank : forall c, c ∈ space -> Text.isBlank c = true) :
    stripQuotes (space ++ name) = name := by
  have bare : isEnclosed name = false := by
    cases name with
    | nil => rfl
    | cons c rest =>
        have none := identifier.closing?_eq_none (c := c) (by simp)
        cases rest with
        | nil => rfl
        | cons d more => simp [isEnclosed, none]
  simp only [stripQuotes, Text.trim_blank_append blank identifier.unpadded, bare,
    Bool.false_eq_true, if_false]

theorem dottedPieces_eq (identifier : IsIdentifier name) : dottedPieces none name = [name] := by
  have dotless : forall t : Text, (forall c, c ∈ t -> closing? c = none ∧ c ≠ '.') ->
      dottedPieces none t = [t] := by
    intro t
    induction t with
    | nil => intro _; rfl
    | cons c rest ih =>
        intro each
        have here := each c (by simp)
        have later := ih fun d member => each d (List.mem_cons_of_mem _ member)
        simp [dottedPieces, here.1, here.2, later, ontoFirst]
  apply dotless
  intro c member
  exact ⟨identifier.closing?_eq_none member,
    ne_of_identifierChar (identifier.chars c member) (by decide)⟩

/-- An identifier is a qualified name without a schema. -/
theorem qualifiedName_eq (identifier : IsIdentifier name) :
    QualifiedName.ofText name = ⟨none, name⟩ := by
  have stripped : stripQuotes name = name := identifier.stripQuotes_blank_append [] (by simp)
  have filled : name.isEmpty = false := List.isEmpty_eq_false_iff.mpr identifier.ne_nil
  simp only [QualifiedName.ofText, parts, Text.trim_of_unpadded identifier.unpadded,
    identifier.dottedPieces_eq, List.map_cons, List.map_nil, stripped, filled, List.filter_cons,
    Bool.not_false, if_true, List.filter_nil]
  rfl

theorem enclosed_eq_nil (identifier : IsIdentifier name) {opening : Char} (closing : Char)
    (outside : isIdentifierChar opening = false) (rest : Text) :
    Phrase.enclosed opening closing (name ++ rest) = [] := by
  rcases identifier.begins with ⟨c, more, rfl, _⟩
  have apart := ne_of_identifierChar (identifier.chars c (by simp)) outside
  simp [Phrase.enclosed, apart]

/-- An identifier is read whole as a name where neither a name character nor a dot follows. -/
theorem prefers_spelling (identifier : IsIdentifier name) {rest : Text}
    (boundary : forall c, rest.head? = some c -> isPlainChar c = false)
    (undotted : furtherPart rest = []) : Phrase.Prefers spelling (name ++ rest) name rest := by
  have plain : forall c, c ∈ name -> isPlainChar c = true := by
    intro c member
    simp [isPlainChar, isWordChar_of_identifierChar (identifier.chars c member)]
  have run := Phrase.prefers_runWhere identifier.ne_nil plain boundary
  have part : Phrase.Prefers partPhrase (name ++ rest) () rest :=
    Phrase.prefers_bind
      (Phrase.prefers_either_right (identifier.enclosed_eq_nil _ (by decide) rest)
        (Phrase.prefers_either_right (identifier.enclosed_eq_nil _ (by decide) rest)
          (Phrase.prefers_either_right (identifier.enclosed_eq_nil _ (by decide) rest) run)))
      (Phrase.prefers_give () rest)
  have whole : Phrase.Prefers (do partPhrase; Phrase.repeated furtherPart) (name ++ rest) () rest :=
    Phrase.prefers_bind part (Phrase.prefers_repeated_absent undotted)
  exact Phrase.prefers_bind (Phrase.prefers_spanned whole) (Phrase.prefers_give _ rest)

/-- A name in backticks is read whole, with its backticks. -/
theorem prefers_spelling_backticks (identifier : IsIdentifier name) {rest : Text}
    (undotted : furtherPart rest = []) :
    Phrase.Prefers spelling ('\x60' :: name ++ ['\x60'] ++ rest)
      ('\x60' :: name ++ ['\x60']) rest := by
  have quoted : Phrase.Prefers (Phrase.enclosed '\x60' '\x60')
      ('\x60' :: name ++ ['\x60'] ++ rest) name rest := by
    apply Phrase.prefers_of_singleton
    rw [List.append_assoc, List.cons_append]
    exact Phrase.enclosed_append identifier.ne_nil (identifier.not_mem (by decide)) rest
  have part : Phrase.Prefers partPhrase ('\x60' :: name ++ ['\x60'] ++ rest) () rest :=
    Phrase.prefers_bind (Phrase.prefers_either_left _ quoted) (Phrase.prefers_give () rest)
  have whole : Phrase.Prefers (do partPhrase; Phrase.repeated furtherPart)
      ('\x60' :: name ++ ['\x60'] ++ rest) () rest :=
    Phrase.prefers_bind part (Phrase.prefers_repeated_absent undotted)
  exact Phrase.prefers_bind (Phrase.prefers_spanned whole) (Phrase.prefers_give _ rest)

/-- Nor do the backticks count in the qualified name. -/
theorem qualifiedName_backticks (identifier : IsIdentifier name) :
    QualifiedName.ofText ('\x60' :: name ++ ['\x60']) = ⟨none, name⟩ := by
  have inside : forall t : Text, '\x60' ∉ t ->
      dottedPieces (some '\x60') (t ++ ['\x60']) = [t ++ ['\x60']] := by
    intro t
    induction t with
    | nil => intro _; rfl
    | cons c rest ih =>
        intro free
        have here : ¬ c = '\x60' := fun same => free (by simp [same])
        have later := ih fun member => free (List.mem_cons_of_mem c member)
        simp [dottedPieces, here, later, ontoFirst]
  have pieces : dottedPieces none ('\x60' :: name ++ ['\x60']) = ['\x60' :: name ++ ['\x60']] := by
    rw [List.cons_append, dottedPieces]
    simp [closing?, inside name (identifier.not_mem (by decide)), ontoFirst]
  have filled : name.isEmpty = false := List.isEmpty_eq_false_iff.mpr identifier.ne_nil
  simp only [QualifiedName.ofText, parts, Text.trim_of_unpadded (unpadded_backticks name), pieces,
    List.map_cons, List.map_nil, stripQuotes_backticks, filled, List.filter_cons, Bool.not_false,
      if_true, List.filter_nil]
  rfl

end IsIdentifier
end Name
end SchemaAtlas
