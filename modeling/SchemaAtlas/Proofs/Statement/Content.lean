import SchemaAtlas.Proofs.Statement.Step

namespace SchemaAtlas
namespace Statement

/-!
What splitting keeps of a script.

White space and semicolons are all that gets lost between the lines of a script and the texts of its
statements, as long as every line that looks like a comment is one and no line is a directive.  The
invariant counts what is open together with what is found: a line adds its own content to the two of
them, whether it opens a statement, goes on with one or ends one.  Where a statement begins is
another invariant, and it needs no condition on the script.
-/

/-- What counts in a text: the characters that are neither white space nor semicolons. -/
def content (t : Text) : Text :=
  t.filter fun c => !Text.isBlank c && c != ';'

theorem content_append (first second : Text) :
    content (first ++ second) = content first ++ content second :=
  List.filter_append ..

theorem content_trim (t : Text) : content (Text.trim t) = content t := by
  apply Text.filter_trim
  intro c blank
  simp [blank]

theorem content_trimEnd (t : Text) : content (Text.trimEnd t) = content t := by
  rcases Text.exists_trimEnd_append t with ⟨space, blank, split⟩
  have none : content space = [] := by
    rw [content, List.filter_eq_nil_iff]
    intro c member
    simp [blank c member]
  conv => rhs; rw [split, content_append, none, List.append_nil]

/-- Line ends count for nothing. -/
theorem content_join (lines : List Text) :
    content (Text.join ['\n'] lines) = content lines.flatten :=
  Text.filter_join (by decide) lines

/-- A statement has the content of the text that made it. -/
theorem content_made (body delimiter : Text) (index line : Nat) :
    content ((made body delimiter index line).flatMap Statement.text) = content body := by
  rw [made]
  split
  · rename_i blank
    rw [← content_trim body, List.isEmpty_iff.mp blank]
    rfl
  · rw [List.flatMap_singleton, content_trim]

/-- Statements with texts of their own, in the order of the lines where they begin. -/
structure InOrder (statements : List Statement) : Prop where
  whole : forall s, s ∈ statements -> s.text ≠ [] ∧ s.text.Unpadded
  rising : statements.Pairwise fun first second => first.line < second.line

theorem InOrder.append_made {statements : List Statement} (inOrder : InOrder statements)
    (body delimiter : Text) (index : Nat) {line : Nat}
    (later : forall s, s ∈ statements -> s.line < line) :
    InOrder (statements ++ made body delimiter index line) where
  whole := by
    intro s member
    rcases List.mem_append.mp member with before | new
    · exact inOrder.whole s before
    · rcases mem_made.mp new with ⟨filled, rfl⟩
      exact ⟨filled, Text.unpadded_trim body⟩
  rising := by
    have alone : (made body delimiter index line).Pairwise fun first second =>
        first.line < second.line := by
      rw [made]
      split
      · exact .nil
      · exact List.pairwise_singleton _ _
    refine List.pairwise_append.mpr ⟨inOrder.rising, alone, ?_⟩
    intro first before second new
    rw [(mem_made.mp new).2]
    exact later first before

namespace Progress

/-- The statements that are found are in order, and what is open begins behind all of them. -/
structure Orderly (p : Progress) : Prop where
  inOrder : InOrder p.found
  past : forall s, s ∈ p.found -> s.line ≤ p.linesRead
  before : p.gathered ≠ [] -> p.firstLine ≤ p.linesRead ∧
    forall s, s ∈ p.found -> s.line < p.firstLine

theorem orderly_start (delimiter : Text) : (start delimiter).Orderly where
  inOrder := ⟨fun _ member => (nomatch member), List.Pairwise.nil⟩
  past _ member := nomatch member
  before filled := absurd rfl filled

namespace Orderly

variable {p : Progress} (orderly : p.Orderly)

include orderly

theorem beginning_le : p.beginning ≤ p.linesRead + 1 := by
  rw [beginning]
  split
  · exact Nat.le_refl _
  · rename_i filled
    exact Nat.le_succ_of_le (orderly.before (mt List.isEmpty_iff.mpr filled)).1

theorem lt_beginning {s : Statement} (member : s ∈ p.found) : s.line < p.beginning := by
  rw [beginning]
  split
  · exact Nat.lt_succ_of_le (orderly.past s member)
  · rename_i filled
    exact (orderly.before (mt List.isEmpty_iff.mpr filled)).2 s member

/-- What is open may end here. -/
theorem inOrder_pending : InOrder (p.found ++ p.pending) := by
  by_cases idle : p.gathered = []
  · rw [pending_of_idle idle, List.append_nil]
    exact orderly.inOrder
  · exact orderly.inOrder.append_made _ _ _ (orderly.before idle).2

theorem step {line : Text} {q : Progress} (reading : Reading p line q) : q.Orderly := by
  have past : forall s, s ∈ p.found -> s.line ≤ p.linesRead + 1 := fun s member =>
    Nat.le_succ_of_le (orderly.past s member)
  cases reading with
  | passed _ =>
      exact ⟨orderly.inOrder, past, fun filled =>
        ⟨Nat.le_succ_of_le (orderly.before filled).1, (orderly.before filled).2⟩⟩
  | redirected _ =>
      refine ⟨orderly.inOrder_pending, ?_, fun filled => absurd rfl filled⟩
      intro s member
      rcases List.mem_append.mp member with before | new
      · exact past s before
      · by_cases idle : p.gathered = []
        · rw [pending_of_idle idle] at new
          cases new
        · rw [(mem_made.mp new).2]
          exact Nat.le_succ_of_le (orderly.before idle).1
  | joined _ _ =>
      exact ⟨orderly.inOrder, past, fun _ => ⟨orderly.beginning_le, fun s => orderly.lt_beginning⟩⟩
  | ended _ _ _ =>
      refine ⟨orderly.inOrder.append_made _ _ _ fun s => orderly.lt_beginning, ?_,
        fun filled => absurd rfl filled⟩
      intro s member
      rcases List.mem_append.mp member with before | new
      · exact past s before
      · rw [(mem_made.mp new).2]
        exact orderly.beginning_le
  | discarded _ _ => exact ⟨orderly.inOrder, past, fun filled => absurd rfl filled⟩

end Orderly

/-- The content of what is found and of what is open. -/
def contentSoFar (p : Progress) : Text :=
  content (p.found.flatMap Statement.text) ++ content p.gathered.flatten

/-- The content of a line, which is nothing for a comment. -/
def lineContent (line : Text) : Text :=
  if isCommentLine line then [] else content line

theorem content_finish (p : Progress) :
    content (p.finish.flatMap Statement.text) = p.contentSoFar := by
  rw [finish_eq, List.flatMap_append, content_append, pending, content_made, openText, content_join]
  rfl

/-- A comment is passed over between statements as well. -/
theorem isIdleLine_of_isCommentLine {line : Text} (comment : isCommentLine line = true) :
    isIdleLine line = true := by
  have dashed : Text.startsWith line "--".toList = true := by
    rw [isCommentLine, Bool.or_eq_true, beq_iff_eq] at comment
    rcases comment with rfl | longer
    · decide
    · have shorter : "--".toList <+: "-- ".toList := by decide
      exact List.isPrefixOf_iff_prefix.mpr (shorter.trans (List.isPrefixOf_iff_prefix.mp longer))
  rw [isIdleLine, dashed, Bool.or_true]

theorem Takes.lineContent_eq {p : Progress} {line : Text} (takes : p.Takes line) :
    lineContent line = content line := by
  have plain : isCommentLine line = false := by
    have kept := takes.kept
    split at kept
    · cases comment : isCommentLine line with
      | false => rfl
      | true => rw [isIdleLine_of_isCommentLine comment] at kept; cases kept
    · exact kept
  rw [lineContent, plain, if_neg (by decide)]

/-- A line that is passed over has no content, if it is a comment wherever it looks like one. -/
theorem lineContent_of_skipped {p : Progress} {line : Text}
    (skipped : (if p.gathered.isEmpty then isIdleLine line else isCommentLine line) = true)
    (dashed : Text.startsWith line "--".toList = true -> isCommentLine line = true) :
    lineContent line = [] := by
  have comment : line = [] ∨ isCommentLine line = true := by
    split at skipped
    · rw [isIdleLine, Bool.or_eq_true] at skipped
      exact skipped.imp List.isEmpty_iff.mp dashed
    · exact Or.inr skipped
  rcases comment with rfl | comment
  · rfl
  · rw [lineContent, comment, if_pos rfl]

/-- Each line adds its content. -/
theorem contentSoFar_step {p q : Progress} {line : Text} (reading : Reading p line q)
    (active : p.delimiter = [';']) (noDirective : directive? line = none)
    (dashed : Text.startsWith line "--".toList = true -> isCommentLine line = true) :
    q.delimiter = [';'] ∧ q.contentSoFar = p.contentSoFar ++ lineContent line := by
  cases reading with
  | passed skipped =>
      refine ⟨active, ?_⟩
      rw [lineContent_of_skipped skipped dashed, List.append_nil]
      rfl
  | redirected told =>
      rw [noDirective] at told
      cases told
  | joined takes _ =>
      refine ⟨active, ?_⟩
      simp only [contentSoFar, List.flatten_append, List.flatten_singleton, content_append,
        takes.lineContent_eq, List.append_assoc]
  | @ended body takes _ whole =>
      have semicolon : content [';'] = [] := by decide
      have joined : content body = content p.gathered.flatten ++ content line := by
        have both := congrArg content whole
        rw [content_trimEnd, content_join, List.flatten_append, List.flatten_singleton,
          content_append, content_append, active, semicolon, List.append_nil] at both
        exact both.symm
      refine ⟨active, ?_⟩
      have nothing : content ([] : List Text).flatten = [] := rfl
      simp only [contentSoFar, List.flatMap_append, content_append, content_made, joined,
        takes.lineContent_eq, nothing, List.append_nil, List.append_assoc]
  | discarded _ unmarked =>
      rw [active] at unmarked
      cases unmarked

/-- Lines without directives add their contents, one after another. -/
theorem contentSoFar_foldl_readLine {p : Progress} {lines : List Text}
    (active : p.delimiter = [';'])
    (noDirective : forall line, line ∈ lines -> directive? line = none)
    (dashed : forall line, line ∈ lines -> Text.startsWith line "--".toList = true ->
      isCommentLine line = true) :
    (lines.foldl readLine p).contentSoFar = p.contentSoFar ++ lines.flatMap lineContent := by
  induction lines generalizing p with
  | nil => exact (List.append_nil _).symm
  | cons line rest ih =>
      have here := contentSoFar_step (reading_readLine p line) active
        (noDirective line List.mem_cons_self)
        (dashed line List.mem_cons_self)
      have later :=
        ih here.1 (fun other listed => noDirective other (List.mem_cons_of_mem line listed))
        fun other listed => dashed other (List.mem_cons_of_mem line listed)
      rw [List.foldl_cons, later, here.2, List.flatMap_cons, List.append_assoc]

end Progress

/-- The contents of the lines of a script are the content of those that are no comments. -/
theorem flatMap_lineContent (lines : List Text) :
    (lines.map Text.trim).flatMap Progress.lineContent =
      content (lines.filter fun line => !isCommentLine (Text.trim line)).flatten := by
  induction lines with
  | nil => rfl
  | cons line rest ih =>
      rw [List.map_cons, List.flatMap_cons, ih, Progress.lineContent]
      cases comment : isCommentLine (Text.trim line) with
      | true => simp [comment]
      | false => simp [comment, content_append, content_trim]

/-- The statements of a script stand in the order of their lines, and none of
them is blank or padded. -/
theorem inOrder_split (delimiter script : Text) : InOrder (split delimiter script) := by
  have orderly : (readLines delimiter script).Orderly :=
    Progress.holds_foldl_readLine (Progress.orderly_start delimiter) fun _ _ _ _ orderly reading =>
      orderly.step reading
  rw [split, Progress.finish_eq]
  exact orderly.inOrder_pending

/-- Splitting loses no content.  In a script without directives, where every line that begins
with two dashes is a comment, the texts of the statements have the content of the lines that are
no comments, in order.  No text is empty or padded, and each statement begins on a later line
than the one before it. -/
theorem content_split {script : Text}
    (noDirective : forall line, line ∈ rawLines script -> directive? (Text.trim line) = none)
    (dashed : forall line, line ∈ rawLines script ->
      Text.startsWith (Text.trim line) "--".toList = true ->
        isCommentLine (Text.trim line) = true) :
    content ((rawLines script).filter fun line => !isCommentLine (Text.trim line)).flatten =
        content ((split [';'] script).map Statement.text).flatten ∧
      (forall s, s ∈ split [';'] script -> s.text ≠ [] ∧ s.text.Unpadded) ∧
      (split [';'] script).Pairwise fun first second => first.line < second.line := by
  have inOrder := inOrder_split [';'] script
  refine ⟨?_, inOrder.whole, inOrder.rising⟩
  have read : (readLines [';'] script).contentSoFar =
      (Progress.start [';']).contentSoFar ++
        (trimmedLines script).flatMap Progress.lineContent := by
    apply Progress.contentSoFar_foldl_readLine rfl
    · intro line listed
      rcases List.mem_map.mp listed with ⟨raw, member, rfl⟩
      exact noDirective raw member
    · intro line listed
      rcases List.mem_map.mp listed with ⟨raw, member, rfl⟩
      exact dashed raw member
  rw [← List.flatMap_def, split, Progress.content_finish, read, trimmedLines_eq,
    flatMap_lineContent]
  rfl

/-- Comments, a blank statement, a statement with a blank line and a comment inside,
and one that is not ended. -/
def interspersed : Text :=
  "-- tables\r\nCREATE TABLE t (a INT);\n;\n  INSERT INTO t \n\n-- rows\n".toList ++
    "VALUES ('; 1');\n--\nSELECT 1".toList

/-- The contents of a script whose lines are of all kinds. -/
theorem content_split_interspersed :
    (forall line, line ∈ rawLines interspersed -> directive? (Text.trim line) = none) ∧
      (forall line, line ∈ rawLines interspersed ->
        Text.startsWith (Text.trim line) "--".toList = true ->
          isCommentLine (Text.trim line) = true) ∧
      content ((split [';'] interspersed).map Statement.text).flatten =
        "CREATETABLEt(aINT)INSERTINTOtVALUES('1')SELECT1".toList ∧
      (split [';'] interspersed).map Statement.line = [2, 4, 9] := by
  have noDirective : forall line, line ∈ rawLines interspersed ->
      directive? (Text.trim line) = none := by
    decide +kernel
  have dashed : forall line, line ∈ rawLines interspersed ->
      Text.startsWith (Text.trim line) "--".toList = true ->
        isCommentLine (Text.trim line) = true := by
    decide +kernel
  have kept : content ((rawLines interspersed).filter fun line =>
      !isCommentLine (Text.trim line)).flatten =
      "CREATETABLEt(aINT)INSERTINTOtVALUES('1')SELECT1".toList := by decide +kernel
  refine ⟨noDirective, dashed, (content_split noDirective dashed).1.symm.trans kept, ?_⟩
  decide +kernel

end Statement
end SchemaAtlas
