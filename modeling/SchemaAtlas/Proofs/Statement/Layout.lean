import Mathlib.Data.List.Basic
import Mathlib.Data.List.Induction
import SchemaAtlas.Proofs.Phrase
import SchemaAtlas.Proofs.Statement.Lines

namespace SchemaAtlas
namespace Statement

/-!
Scripts laid out by hand, and the statements that splitting finds in them.

A layout is a sequence of parts: directives, idle lines, and statements over one or more lines with
the delimiter right behind the last.  Splitting a layout gives its statements in order, each with
the delimiter that is active where it stands and with the number of its first line.  The conditions
on a statement say that no line of it is taken for something else and that it does not end too
early.

One of them is easily overlooked.  Between statements every line that begins with two dashes is
idle, and a delimiter that begins with a dash can make such a line out of a statement that begins
with one.
-/

/-- How the lines of a script end. -/
inductive LineEnd where
  | feed
  | returnFeed
  | returnOnly
deriving DecidableEq

def LineEnd.text : LineEnd -> Text
  | .feed => ['\n']
  | .returnFeed => ['\r', '\n']
  | .returnOnly => ['\r']

/-- Lines as one text, each with its end. -/
def ended (lineEnd : LineEnd) (lines : List Text) : Text :=
  lines.flatMap (· ++ lineEnd.text)

/-- A text that can be a delimiter: not empty and without white space. -/
def IsDelimiter (delimiter : Text) : Prop :=
  delimiter ≠ [] ∧ forall c, c ∈ delimiter -> Text.isBlank c = false

instance (delimiter : Text) : Decidable (IsDelimiter delimiter) :=
  decidable_of_iff (delimiter ≠ [] ∧ delimiter.all (!Text.isBlank ·) = true) (by simp [IsDelimiter])

/-- The lines of one statement, the last of which carries the delimiter. -/
structure Body where
  earlier : List Text
  last : Text
deriving DecidableEq

/-- A part of a layout. -/
inductive Part where
  | directive (delimiter : Text)
  | idle (line : Text)
  | statement (body : Body)
deriving DecidableEq

namespace Body

def lines (b : Body) : List Text :=
  b.earlier ++ [b.last]

def written (delimiter : Text) (b : Body) : List Text :=
  b.earlier ++ [b.last ++ delimiter]

def text (b : Body) : Text :=
  Text.join ['\n'] b.lines

/-- Lines that make one statement under a delimiter.  They have no outer white space, the first
and the last are not blank, the first does not begin with two dashes, none is a comment or a
directive, with the delimiter or without it, and the delimiter does not stand behind fewer lines
than all. -/
structure Proper (delimiter : Text) (b : Body) : Prop where
  unbroken : forall line, line ∈ b.lines -> line.Unbroken
  unpadded : forall line, line ∈ b.lines -> line.Unpadded
  opening : forall first, first ∈ b.lines.head? -> isIdleLine first = false
  last_ne_nil : b.last ≠ []
  plain : forall line, line ∈ b.lines ++ [b.last ++ delimiter] ->
    isCommentLine line = false ∧ directive? line = none
  unended : forall n, n < b.lines.length ->
    Text.endsWith (Text.trimEnd (Text.join ['\n'] (b.lines.take n))) delimiter = false

instance (delimiter : Text) (b : Body) : Decidable (b.Proper delimiter) :=
  decidable_of_iff
    ((forall line, line ∈ b.lines -> line.Unbroken) ∧
      (forall line, line ∈ b.lines -> line.Unpadded) ∧
      (forall first, first ∈ b.lines.head? -> isIdleLine first = false) ∧ b.last ≠ [] ∧
      (forall line, line ∈ b.lines ++ [b.last ++ delimiter] -> isCommentLine line = false ∧
        directive? line = none) ∧
      forall n, n < b.lines.length ->
        Text.endsWith (Text.trimEnd (Text.join ['\n'] (b.lines.take n))) delimiter = false)
    ⟨fun ⟨unbroken, unpadded, opening, filled, plain, unended⟩ =>
        ⟨unbroken, unpadded, opening, filled, plain, unended⟩,
      fun proper =>
        ⟨proper.unbroken, proper.unpadded, proper.opening, proper.last_ne_nil, proper.plain,
          proper.unended⟩⟩

end Body

namespace Part

/-- The delimiter behind a part, where the given one is active before it. -/
def active (delimiter : Text) : Part -> Text
  | .directive next => next
  | _ => delimiter

def lines (delimiter : Text) : Part -> List Text
  | .directive next => ["DELIMITER ".toList ++ next]
  | .idle line => [line]
  | .statement body => body.written delimiter

/-- The statement of a part, behind so many statements and so many lines. -/
def found (delimiter : Text) (statements lines : Nat) : Part -> List Statement
  | .statement body => [⟨body.text, delimiter, statements, lines + 1⟩]
  | _ => []

/-- A part that is what it seems to be. -/
def Proper (delimiter : Text) : Part -> Prop
  | .directive next => IsDelimiter next
  | .idle line =>
      line.Unbroken ∧ (Text.isBlankText line = true ∨ Text.startsWith line "--".toList = true)
  | .statement body => body.Proper delimiter

/-- A statement whose first line, as it is written, does not begin with two dashes. -/
def Shown (delimiter : Text) : Part -> Prop
  | .statement body => forall line, line ∈ (body.written delimiter).head? ->
      Text.startsWith line "--".toList = false
  | _ => True

instance (delimiter : Text) : DecidablePred (Proper delimiter)
  | .directive next => inferInstanceAs (Decidable (IsDelimiter next))
  | .idle _ => inferInstanceAs (Decidable (_ ∧ _))
  | .statement body => inferInstanceAs (Decidable (body.Proper delimiter))

instance (delimiter : Text) : DecidablePred (Shown delimiter)
  | .directive _ => inferInstanceAs (Decidable True)
  | .idle _ => inferInstanceAs (Decidable True)
  | .statement body =>
      inferInstanceAs (Decidable (forall line, line ∈ (body.written delimiter).head? ->
      Text.startsWith line "--".toList = false))

end Part

def layout (delimiter : Text) : List Part -> List Text
  | [] => []
  | part :: rest => part.lines delimiter ++ layout (part.active delimiter) rest

/-- The statements of a layout, behind so many statements and so many lines. -/
def laidOut (delimiter : Text) (statements lines : Nat) : List Part -> List Statement
  | [] => []
  | part :: rest =>
    let here := part.found delimiter statements lines
    here ++ laidOut (part.active delimiter) (statements + here.length)
      (lines + (part.lines delimiter).length) rest

/-- Every part meets a condition under the delimiter that is active where it stands. -/
def Throughout (condition : Text -> Part -> Prop) (delimiter : Text) : List Part -> Prop
  | [] => True
  | part :: rest => condition delimiter part ∧ Throughout condition (part.active delimiter) rest

instance decidableThroughout (condition : Text -> Part -> Prop)
    [forall delimiter, DecidablePred (condition delimiter)] (delimiter : Text) :
    (parts : List Part) -> Decidable (Throughout condition delimiter parts)
  | [] => inferInstanceAs (Decidable True)
  | part :: rest =>
    have := decidableThroughout condition (part.active delimiter) rest
    inferInstanceAs (Decidable (_ ∧ _))

/-! The lines of a script. -/

/-- Whatever ends the lines, a line feed ends them afterwards. -/
theorem unifyBreaks_ended (lineEnd : LineEnd) {lines : List Text}
    (unbroken : forall line, line ∈ lines -> line.Unbroken) :
    unifyBreaks (ended lineEnd lines) = ended .feed lines := by
  induction lines with
  | nil => rfl
  | cons line rest ih =>
      have here := unbroken line (by simp)
      have later := ih fun other listed => unbroken other (List.mem_cons_of_mem _ listed)
      have step : unifyBreaks (lineEnd.text ++ ended lineEnd rest) =
          '\n' :: unifyBreaks (ended lineEnd rest) := by
        cases lineEnd with
        | feed => rfl
        | returnFeed => rfl
        | returnOnly =>
            -- what follows the carriage return is a character of the next line, or its end
            have apart : forall more, ended .returnOnly rest ≠ '\n' :: more := by
              intro more equal
              have member : '\n' ∈ ended .returnOnly rest := by simp [equal]
              rcases List.mem_flatMap.mp member with ⟨other, listed, inside⟩
              rcases List.mem_append.mp inside with inLine | inEnd
              · exact (unbroken other (List.mem_cons_of_mem _ listed)).2 inLine
              · exact absurd inEnd (by decide)
            cases following : ended .returnOnly rest with
            | nil => rfl
            | cons c more =>
                have notFeed : c ≠ '\n' := fun equal => apart more (by rw [following, equal])
                rw [LineEnd.text, List.singleton_append, unifyBreaks.eq_def]
                split
                · rename_i equal
                  cases equal
                · rename_i equal
                  exact absurd (List.cons.inj (List.cons.inj equal).2).1 notFeed
                · rename_i equal
                  cases equal
                  rfl
      rw [ended, List.flatMap_cons, List.append_assoc, unifyBreaks_append here.1]
      change line ++ unifyBreaks (lineEnd.text ++ ended lineEnd rest) = _
      rw [step, later, ended, ended, List.flatMap_cons, List.append_assoc]
      rfl

/-- The lines of a script are those that were written, and nothing stands behind
the last line end. -/
theorem trimmedLines_ended (lineEnd : LineEnd) {lines : List Text}
    (unbroken : forall line, line ∈ lines -> line.Unbroken) :
    trimmedLines (ended lineEnd lines) = lines.map Text.trim ++ [[]] := by
  have cut : Text.splitOn '\n' (ended .feed lines) = lines ++ [[]] := by
    induction lines with
    | nil => rfl
    | cons line rest ih =>
        have uncut : forall c, c ∈ line -> (c == '\n') = false := fun c member =>
          beq_eq_false_iff_ne.mpr fun equal => (unbroken line (by simp)).2 (equal ▸ member)
        have later := ih fun other listed => unbroken other (List.mem_cons_of_mem _ listed)
        have whole : ended .feed (line :: rest) = line ++ '\n' :: ended .feed rest := by
          rw [ended, List.flatMap_cons, List.append_assoc]
          rfl
        rw [whole, Text.splitOn, Text.splitWhere_append_cons uncut (beq_self_eq_true '\n')]
        exact congrArg (line :: ·) later
  rw [trimmedLines, unifyBreaks_ended lineEnd unbroken, cut, List.map_append]
  rfl

/-! The lines of one part. -/

namespace IsDelimiter

variable {delimiter : Text}

theorem unpadded_append (proper : IsDelimiter delimiter) {body : Text} (filled : body ≠ [])
    (bare : body.Unpadded) : (body ++ delimiter).Unpadded :=
  Text.unpadded_append filled proper.1 bare.1 fun c last => proper.2 c (List.mem_of_getLast? last)

theorem head_not_blank (proper : IsDelimiter delimiter) (c : Char)
    (found : delimiter.head? = some c) : Text.isBlank c = false :=
  proper.2 c (List.mem_of_head? found)

theorem unpadded_directive (proper : IsDelimiter delimiter) :
    Text.Unpadded ("DELIMITER ".toList ++ delimiter) :=
  Text.unpadded_append (List.cons_ne_nil _ _) proper.1 (Text.fails_at_head 'D' _ (by decide))
    fun c last => proper.2 c (List.mem_of_getLast? last)

theorem directive?_eq (proper : IsDelimiter delimiter) :
    directive? ("DELIMITER ".toList ++ delimiter) = some delimiter := by
  have read : Phrase.keyword "delimiter".toList ("DELIMITER ".toList ++ delimiter) =
      [((), delimiter)] :=
    Phrase.keyword_append "DELIMITER".toList (by decide) proper.head_not_blank
  have filled : delimiter.isEmpty = false := List.isEmpty_eq_false_iff.mpr proper.1
  have solid : (delimiter.all fun c => !Text.isBlank c) = true := by
    simpa only [List.all_eq_true, Bool.not_eq_true'] using proper.2
  simp only [directive?, read, filled, solid, Bool.not_false, Bool.and_self, if_true]

theorem unbroken (proper : IsDelimiter delimiter) : delimiter.Unbroken :=
  ⟨fun member => absurd (proper.2 _ member) (by decide),
    fun member => absurd (proper.2 _ member) (by decide)⟩

end IsDelimiter

namespace Part

variable {delimiter : Text}

theorem unbroken_lines (part : Part) (marked : IsDelimiter delimiter)
    (proper : part.Proper delimiter) (line : Text) (listed : line ∈ part.lines delimiter) :
    line.Unbroken := by
  cases part with
  | directive next =>
      rw [List.mem_singleton.mp listed]
      exact Text.Unbroken.append ⟨by decide, by decide⟩ (IsDelimiter.unbroken proper)
  | idle line =>
      rw [List.mem_singleton.mp listed]
      exact proper.1
  | statement body =>
      rcases List.mem_append.mp listed with earlier | last
      · exact Body.Proper.unbroken proper line (List.mem_append_left _ earlier)
      · rw [List.mem_singleton.mp last]
        exact (Body.Proper.unbroken proper body.last (by simp [Body.lines])).append marked.unbroken

end Part

/-- There is a delimiter behind every part. -/
theorem IsDelimiter.active {delimiter : Text} (marked : IsDelimiter delimiter) {part : Part}
    (proper : part.Proper delimiter) : IsDelimiter (part.active delimiter) := by
  cases part with
  | directive next => exact proper
  | idle line => exact marked
  | statement body => exact marked

/-- An idle line is still one without its outer white space. -/
theorem isIdleLine_trim {line : Text}
    (idle : Text.isBlankText line = true ∨ Text.startsWith line "--".toList = true) :
    isIdleLine (Text.trim line) = true := by
  rcases idle with blank | dashed
  · rw [Text.trim_of_isBlankText blank]
    rfl
  · rcases List.isPrefixOf_iff_prefix.mp dashed with ⟨rest, rfl⟩
    have dash : Text.isBlank '-' = false := by decide
    have trimmed : Text.trim ("--".toList ++ rest) = '-' :: '-' :: Text.trimEnd rest := by
      have start : Text.trimStart ("--".toList ++ rest) = '-' :: '-' :: rest :=
        Text.dropWhile_of_head (Text.fails_at_head '-' _ dash)
      rw [Text.trim, start, Text.trimEnd_cons dash, Text.trimEnd_cons dash]
    rw [trimmed]
    rfl

namespace Body

variable {delimiter : Text} {b : Body}

theorem mem_lines_last (b : Body) : b.last ∈ b.lines := by
  simp [lines]

theorem text_written (delimiter : Text) (b : Body) :
    Text.join ['\n'] (b.written delimiter) = b.text ++ delimiter :=
  Text.join_append_singleton _ _ _ _

theorem text_eq (b : Body) : b.text = Text.join ['\n'] (b.earlier ++ [[]]) ++ b.last :=
  Text.join_append_singleton ['\n'] b.earlier [] b.last

namespace Proper

theorem head_text (proper : b.Proper delimiter) (c : Char) (found : b.text.head? = some c) :
    Text.isBlank c = false := by
  cases lines : b.lines with
  | nil => exact absurd lines (by simp [Body.lines])
  | cons first rest =>
      have opening := proper.opening first (by rw [lines]; rfl)
      have filled : first ≠ [] := by
        rintro rfl
        cases opening
      have head : b.text.head? = first.head? := by
        rw [text, lines]
        cases first with
        | nil => exact absurd rfl filled
        | cons d more => cases rest <;> simp [Text.join, List.intercalate]
      exact (proper.unpadded first (by rw [lines]; simp)).1 c (head ▸ found)

theorem unpadded_text (proper : b.Proper delimiter) : b.text.Unpadded := by
  refine ⟨proper.head_text, ?_⟩
  intro c found
  rw [text_eq, List.getLast?_append_of_ne_nil _ proper.last_ne_nil] at found
  exact (proper.unpadded b.last b.mem_lines_last).2 c found

theorem unpadded_written (proper : b.Proper delimiter) (marked : IsDelimiter delimiter)
    (line : Text) (listed : line ∈ b.written delimiter) : line.Unpadded := by
  rcases List.mem_append.mp listed with earlier | last
  · exact proper.unpadded line (List.mem_append_left _ earlier)
  · rw [List.mem_singleton.mp last]
    exact marked.unpadded_append proper.last_ne_nil (proper.unpadded b.last b.mem_lines_last)

theorem text_ne_nil (proper : b.Proper delimiter) : b.text ≠ [] := by
  rw [text_eq]
  exact List.append_ne_nil_of_right_ne_nil _ proper.last_ne_nil

end Proper
end Body

namespace Progress

/-- The state between two parts of a layout. -/
structure Between (p : Progress) (found : List Statement) (delimiter : Text) (lines : Nat) :
    Prop where
  idle : p.gathered = []
  found_eq : p.found = found
  delimiter_eq : p.delimiter = delimiter
  lines_eq : p.linesRead = lines

/-- The state inside of a statement, where the given lines of it are read. -/
def inside (p : Progress) (front : List Text) : Progress :=
  { p with
    gathered := front
    firstLine := if front.isEmpty then p.firstLine else p.linesRead + 1
    linesRead := p.linesRead + front.length }

theorem beginning_inside (p : Progress) (front : List Text) :
    (p.inside front).beginning = p.linesRead + 1 := by
  cases front with
  | nil => rfl
  | cons line rest => rfl

/-- A line of a statement, with the delimiter or without it, is read as such
behind the lines before it. -/
theorem takes_inside (p : Progress) {front : List Text} {line : Text}
    (plain : isCommentLine line = false) (noDirective : directive? line = none)
    (opening : front = [] -> isIdleLine line = false) : (p.inside front).Takes line := by
  refine ⟨?_, noDirective⟩
  cases front with
  | nil => exact opening rfl
  | cons first rest => exact plain

/-- The lines before the last are gathered one by one. -/
theorem foldl_readLine_earlier {p : Progress} {b : Body} (idle : p.gathered = [])
    (proper : b.Proper p.delimiter) {front : List Text} (begins : front <+: b.earlier) :
    front.foldl readLine p = p.inside front := by
  induction front using List.reverseRecOn with
  | nil =>
      rcases p with ⟨found, gathered, firstLine, delimiter, linesRead, interruptions⟩
      change gathered = [] at idle
      rw [idle]
      rfl
  | append_singleton front line ih =>
      rcases begins with ⟨behind, split⟩
      have earlier := ih ⟨[line] ++ behind, by rw [← split, List.append_assoc]⟩
      have lines : b.lines = (front ++ [line]) ++ (behind ++ [b.last]) := by
        rw [Body.lines, ← split, List.append_assoc]
      have listed : line ∈ b.lines := by simp [lines]
      have meaning := proper.plain line (List.mem_append_left _ listed)
      have opening : front = [] -> isIdleLine line = false := by
        rintro rfl
        exact proper.opening line (by simp [lines])
      have unended := proper.unended (front ++ [line]).length
        (by rw [lines, List.length_append]; simp)
      rw [lines, List.take_left] at unended
      rw [List.foldl_append, earlier, List.foldl_cons, List.foldl_nil,
        readLine_joins (takes_inside p meaning.1 meaning.2 opening) unended, beginning_inside]
      simp [inside, Nat.add_assoc]

/-- The lines of a statement give the statement. -/
theorem between_foldl_statement {p : Progress} {found : List Statement} {delimiter : Text}
    {lines : Nat} {b : Body} (between : p.Between found delimiter lines)
    (marked : IsDelimiter delimiter) (proper : b.Proper delimiter)
    (shown : Part.Shown delimiter (.statement b)) : ((b.written delimiter).foldl readLine p).Between
      (found ++ [⟨b.text, delimiter, found.length, lines + 1⟩]) delimiter
        (lines + (b.written delimiter).length) := by
  rcases between with ⟨idle, rfl, rfl, rfl⟩
  have meaning := proper.plain (b.last ++ p.delimiter) (by simp)
  have opening : b.earlier = [] -> isIdleLine (b.last ++ p.delimiter) = false := by
    intro single
    have dashed := shown (b.last ++ p.delimiter) (by simp [Body.written, single])
    have filled : (b.last ++ p.delimiter).isEmpty = false :=
      List.isEmpty_eq_false_iff.mpr (List.append_ne_nil_of_left_ne_nil proper.last_ne_nil _)
    simp only [isIdleLine, filled, dashed, Bool.or_self]
  have whole : Text.trimEnd
      (Text.join ['\n'] ((p.inside b.earlier).gathered ++ [b.last ++ p.delimiter])) =
      b.text ++ p.delimiter := by
    change Text.trimEnd (Text.join ['\n'] (b.written p.delimiter)) = _
    rw [Body.text_written]
    exact Text.trimEnd_of_unpadded (marked.unpadded_append proper.text_ne_nil proper.unpadded_text)
  have final := readLine_ends (takes_inside p meaning.1 meaning.2 opening) whole
    proper.unpadded_text
    proper.text_ne_nil marked.1
  rw [beginning_inside] at final
  rw [Body.written, List.foldl_append, foldl_readLine_earlier idle proper (List.prefix_refl _),
    List.foldl_cons, List.foldl_nil, final]
  exact ⟨rfl, rfl, rfl, by simp [inside, Nat.add_assoc]⟩

/-- The lines of a part give its statement, if there is one, and leave nothing open. -/
theorem between_foldl_part {p : Progress} {found : List Statement} {delimiter : Text} {lines : Nat}
    {part : Part} (between : p.Between found delimiter lines) (marked : IsDelimiter delimiter)
    (proper : part.Proper delimiter) (shown : part.Shown delimiter) :
    (((part.lines delimiter).map Text.trim).foldl readLine p).Between
      (found ++ part.found delimiter found.length lines)
      (part.active delimiter) (lines + (part.lines delimiter).length) := by
  cases part with
  | directive next =>
      have trimmed := Text.trim_of_unpadded (IsDelimiter.unpadded_directive proper)
      have notIdle : isIdleLine ("DELIMITER ".toList ++ next) = false := rfl
      have told := IsDelimiter.directive?_eq proper
      rcases between with ⟨idle, rfl, rfl, rfl⟩
      simp only [Part.lines, List.map_cons, List.map_nil, trimmed, List.foldl_cons, List.foldl_nil,
        readLine, idle, List.isEmpty_nil, if_true, notIdle, Bool.false_eq_true, if_false, told,
          redirect]
      exact ⟨rfl, (List.append_nil _).symm, rfl, rfl⟩
  | idle line =>
      have passed := isIdleLine_trim proper.2
      rcases between with ⟨idle, rfl, rfl, rfl⟩
      simp only [Part.lines, List.map_cons, List.map_nil, List.foldl_cons, List.foldl_nil,
        readLine, idle, List.isEmpty_nil, if_true, passed]
      exact ⟨rfl, (List.append_nil _).symm, rfl, rfl⟩
  | statement body =>
      have trimmed : (body.written delimiter).map Text.trim = body.written delimiter := by
        conv => rhs; rw [← List.map_id (body.written delimiter)]
        exact List.map_congr_left fun line listed =>
          Text.trim_of_unpadded (proper.unpadded_written marked line listed)
      rw [Part.lines, trimmed]
      exact between_foldl_statement between marked proper shown

/-- The lines of a layout give its statements, if every part is what it seems to be. -/
theorem found_foldl_layout {p : Progress} {found : List Statement} {delimiter : Text} {lines : Nat}
    {parts : List Part} (between : p.Between found delimiter lines) (marked : IsDelimiter delimiter)
    (proper : Throughout Part.Proper delimiter parts)
    (shown : Throughout Part.Shown delimiter parts) :
    let last := ((layout delimiter parts).map Text.trim).foldl readLine p
    last.gathered = [] ∧ last.found = found ++ laidOut delimiter found.length lines parts := by
  induction parts generalizing p found delimiter lines with
  | nil => exact ⟨between.idle, between.found_eq.trans (List.append_nil _).symm⟩
  | cons part rest ih =>
      have here := between_foldl_part between marked proper.1 shown.1
      have later := ih here (marked.active proper.1) proper.2 shown.2
      rw [List.length_append] at later
      simp only [layout, List.map_append, List.foldl_append, laidOut, ← List.append_assoc]
      exact later

end Progress

/-! Layouts as a whole. -/

theorem unbroken_layout {delimiter : Text} {parts : List Part} (marked : IsDelimiter delimiter)
    (proper : Throughout Part.Proper delimiter parts) (line : Text)
    (listed : line ∈ layout delimiter parts) : line.Unbroken := by
  induction parts generalizing delimiter with
  | nil => cases listed
  | cons part rest ih =>
      rcases List.mem_append.mp listed with here | there
      · exact part.unbroken_lines marked proper.1 line here
      · exact ih (marked.active proper.1) proper.2 there

/-- Statements of a layout are numbered one after another, and their line is the
one where they begin. -/
theorem getElem?_laidOut {delimiter : Text} {statements lines position : Nat} {parts : List Part}
    {s : Statement} (there : (laidOut delimiter statements lines parts)[position]? = some s) :
    s.index = statements + position ∧
      exists body before, Part.statement body ∈ parts ∧ s.text = body.text ∧
      s.line = lines + before + 1 ∧
        (layout delimiter parts)[before]? = (body.written s.delimiter).head? := by
  induction parts generalizing delimiter statements lines position with
  | nil => cases there
  | cons part rest ih =>
      rw [laidOut, List.getElem?_append] at there
      split at there
      · rename_i inside
        cases part with
        | directive next => cases there
        | idle line => cases there
        | statement body =>
            have zero : position = 0 := Nat.lt_one_iff.mp inside
            subst zero
            cases there
            refine ⟨rfl, body, 0, by simp, rfl, rfl, ?_⟩
            rw [layout, ← List.head?_eq_getElem?, List.head?_append_of_ne_nil]
            · rfl
            · simp [Part.lines, Body.written]
      · rename_i outside
        rcases ih there with ⟨index, body, before, member, text, line, first⟩
        refine ⟨by omega, body, (part.lines delimiter).length + before,
          List.mem_cons_of_mem _ member, text, by omega, ?_⟩
        rw [layout, List.getElem?_append_right (by omega), Nat.add_sub_cancel_left, first]

/-- Splitting undoes laying out.  Whatever ends the lines, a layout whose parts are what they
seem to be, and whose statements do not begin with two dashes as they are written, is split into
exactly its statements, in order.  The index of a statement is its position, and its line is the
number of the line where it begins. -/
theorem split_layout (lineEnd : LineEnd) {parts : List Part}
    (proper : Throughout Part.Proper [';'] parts) (shown : Throughout Part.Shown [';'] parts) :
    split [';'] (ended lineEnd (layout [';'] parts)) = laidOut [';'] 0 0 parts ∧
      forall (position : Nat) (s : Statement),
        (split [';'] (ended lineEnd (layout [';'] parts)))[position]? = some s ->
        s.index = position ∧ exists body before, Part.statement body ∈ parts ∧ s.text = body.text ∧
          s.line = before + 1 ∧ (layout [';'] parts)[before]? =
            (body.written s.delimiter).head? := by
  have marked : IsDelimiter [';'] :=
    ⟨by decide, List.all_iff_forall_prop.mp (by decide)⟩
  have lines := trimmedLines_ended lineEnd (unbroken_layout marked proper)
  have between : (Progress.start [';']).Between [] [';'] 0 := ⟨rfl, rfl, rfl, rfl⟩
  obtain ⟨idle, found⟩ := Progress.found_foldl_layout between marked proper shown
  have statements : split [';'] (ended lineEnd (layout [';'] parts)) = laidOut [';'] 0 0 parts := by
    have blank : isIdleLine [] = true := rfl
    simp only [split, readLines, lines, List.foldl_append, List.foldl_cons, List.foldl_nil,
      Progress.readLine, idle, List.isEmpty_nil, if_true, blank, Progress.finish]
    exact found
  refine ⟨statements, ?_⟩
  intro position s there
  rw [statements] at there
  simpa only [Nat.zero_add] using getElem?_laidOut there

/-- Two statements between comments and directives, the second over several lines, one of which
begins with two dashes and one of which is empty. -/
def twoDelimiters : List Part :=
  [.idle "-- tables".toList, .statement ⟨[], "CREATE TABLE t (a INT)".toList⟩, .idle [],
    .directive "$$".toList, .idle "   ".toList,
      .statement ⟨["INSERT INTO t".toList, "--x;".toList, []], "VALUES (1);".toList⟩]

/-- The statements of a script with two delimiters whose lines end in the long way. -/
theorem split_twoDelimiters :
    Throughout Part.Proper [';'] twoDelimiters ∧ Throughout Part.Shown [';'] twoDelimiters ∧
      split [';'] (ended .returnFeed (layout [';'] twoDelimiters)) =
        [⟨"CREATE TABLE t (a INT)".toList, ";".toList, 0, 2⟩,
          ⟨"INSERT INTO t\n--x;\n\nVALUES (1);".toList, "$$".toList, 1, 6⟩] := by
  have proper : Throughout Part.Proper [';'] twoDelimiters := by decide +kernel
  have shown : Throughout Part.Shown [';'] twoDelimiters := by decide +kernel
  exact ⟨proper, shown, (split_layout .returnFeed proper shown).1⟩

/-- A statement that is one dash, and a delimiter that begins with another. -/
def dashes : List Part :=
  [.directive "-x".toList, .statement ⟨[], "-".toList⟩]

/-- Not every layout of proper parts is split into its statements.  Here the only statement is
written on a line that begins with two dashes, and between statements such a line is idle. -/
theorem split_dashes :
    Throughout Part.Proper [';'] dashes ∧
      laidOut [';'] 0 0 dashes = [⟨"-".toList, "-x".toList, 0, 2⟩] ∧
      split [';'] (ended .feed (layout [';'] dashes)) = [] := by
  decide +kernel

end Statement
end SchemaAtlas
