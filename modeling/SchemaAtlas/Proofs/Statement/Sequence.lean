import SchemaAtlas.Proofs.Statement.Step

namespace SchemaAtlas
namespace Statement

/-!
One script behind another.

Where no statement is open, all that the first script leaves for the second is a delimiter, a number
of statements and a number of lines.  So the second script is split as it would be by itself with
that delimiter, and its statements are moved on by these numbers.  Where a statement is open, the
second script may go on with it, but it cannot reach the statements that are ended.
-/

/-- The statement behind so many others and so many lines. -/
def moved (statements lines : Nat) (s : Statement) : Statement :=
  { s with
    index := statements + s.index
    line := lines + s.line }

/-! The lines of both scripts. -/

/-- A line feed between two scripts ends the last line of the first, unless it goes
with a carriage return. -/
theorem rawLines_append_feed {first : Text} (closed : first.getLast? ≠ some '\r') (second : Text) :
    rawLines (first ++ '\n' :: second) = rawLines first ++ rawLines second := by
  rw [rawLines, unifyBreaks_append_cons (fun _ => closed)]
  exact Text.splitOn_append '\n' _ _

/-- Behind a carriage return, the line feed ends no line of its own. -/
theorem rawLines_append_returnFeed (front second : Text) :
    rawLines (front ++ '\r' :: '\n' :: second) = rawLines front ++ rawLines second ∧
      rawLines (front ++ ['\r']) = rawLines front ++ [[]] := by
  have apart : '\r' = '\n' -> front.getLast? ≠ some '\r' := fun equal => absurd equal (by decide)
  constructor
  · rw [rawLines, unifyBreaks_append_cons apart]
    exact Text.splitOn_append '\n' _ _
  · rw [rawLines, unifyBreaks_append_cons apart]
    exact Text.splitOn_append '\n' _ _

namespace Progress

/-! What is found stays found. -/

theorem found_step {p q : Progress} {line : Text} (reading : Reading p line q) :
    p.found <+: q.found := by
  cases reading with
  | passed _ => exact List.prefix_rfl
  | redirected _ => exact List.prefix_append _ _
  | joined _ _ => exact List.prefix_rfl
  | ended _ _ _ => exact List.prefix_append _ _
  | discarded _ _ => exact List.prefix_rfl

theorem found_prefix (p : Progress) (lines : List Text) :
    p.found <+: (lines.foldl readLine p).finish := by
  have kept : p.found <+: (lines.foldl readLine p).found :=
    holds_foldl_readLine (P := fun q => p.found <+: q.found) List.prefix_rfl
      fun _ _ _ _ before reading =>
      before.trans (found_step reading)
  rw [finish_eq]
  exact kept.trans (List.prefix_append _ _)

/-- A line behind which a statement is open has ended none. -/
theorem found_eq_of_open {p q : Progress} {line : Text} (reading : Reading p line q)
    (unended : q.gathered ≠ []) : q.found = p.found := by
  cases reading with
  | passed _ => rfl
  | redirected _ => exact absurd rfl unended
  | joined _ _ => rfl
  | ended _ _ _ => exact absurd rfl unended
  | discarded _ _ => exact absurd rfl unended

/-! What is open is not blank. -/

/-- The first open line begins with a character that is not blank. -/
def Opened (p : Progress) : Prop :=
  forall first, p.gathered.head? = some first ->
    exists c rest, first = c :: rest ∧ Text.isBlank c = false

theorem Opened.step {p q : Progress} {line : Text} (opened : p.Opened) (bare : line.Unpadded)
    (reading : Reading p line q) : q.Opened := by
  cases reading with
  | passed _ => exact opened
  | redirected _ => exact fun _ found => nomatch found
  | joined takes _ =>
      intro first found
      cases gathered : p.gathered with
      | cons other others =>
          apply opened first
          rw [gathered] at found ⊢
          exact found
      | nil =>
          rw [gathered] at found
          obtain rfl : line = first := by simpa using found
          have kept := takes.kept
          rw [gathered] at kept
          cases line with
          | nil => cases kept
          | cons c rest => exact ⟨c, rest, rfl, bare.1 c rfl⟩
  | ended _ _ _ => exact fun _ found => nomatch found
  | discarded _ _ => exact fun _ found => nomatch found

/-- So it makes a statement wherever it ends. -/
theorem Opened.pending_eq {p : Progress} (opened : p.Opened) (unended : p.gathered ≠ []) :
    p.pending = [⟨Text.trim p.openText, p.delimiter, p.found.length, p.firstLine⟩] := by
  cases gathered : p.gathered with
  | nil => exact absurd gathered unended
  | cons first others =>
      rcases opened first (by rw [gathered]; rfl) with ⟨c, rest, rfl, solid⟩
      have begins : exists more, p.openText = c :: more := by
        rw [openText, gathered]
        cases others with
        | nil => exact ⟨rest, Text.join_singleton _ _⟩
        | cons next others => exact ⟨_, Text.join_cons_cons _ _ _ _⟩
      rcases begins with ⟨more, split⟩
      have start : Text.trimStart (c :: more) = c :: more :=
        Text.dropWhile_of_head (Text.fails_at_head c more solid)
      have filled : (Text.trim p.openText).isEmpty = false := by
        rw [split, Text.trim, start, Text.trimEnd_cons solid]
        rfl
      rw [pending, made, filled, if_neg (by decide)]

theorem opened_readLines (delimiter script : Text) : (readLines delimiter script).Opened := by
  refine holds_foldl_readLine (P := Opened) (fun _ found => nomatch found) ?_
  intro line listed q r opened reading
  rcases List.mem_map.mp listed with ⟨raw, _, rfl⟩
  exact opened.step (Text.unpadded_trim raw) reading

/-! Two scans that differ in what was there before. -/

/-- One state is another one behind some statements and some lines. -/
structure Behind (front : List Statement) (lines : Nat) (p q : Progress) : Prop where
  found : p.found = front ++ q.found.map (moved front.length lines)
  gathered : p.gathered = q.gathered
  delimiter : p.delimiter = q.delimiter
  linesRead : p.linesRead = lines + q.linesRead
  firstLine : q.gathered ≠ [] -> p.firstLine = lines + q.firstLine

theorem made_moved (body delimiter : Text) (statements lines index line : Nat) :
    made body delimiter (statements + index) (lines + line) =
      (made body delimiter index line).map (moved statements lines) := by
  rw [made, made]
  split
  · rfl
  · rfl

namespace Behind

variable {front : List Statement} {lines : Nat} {p q : Progress}

theorem append_made (behind : p.Behind front lines q) (body : Text) {first second : Nat}
    (begins : first = lines + second) :
    p.found ++ made body p.delimiter p.found.length first =
      front ++ (q.found ++ made body q.delimiter q.found.length second).map
        (moved front.length lines) := by
  have count : p.found.length = front.length + q.found.length := by
    rw [behind.found, List.length_append, List.length_map]
  rw [count, begins, made_moved, behind.found, behind.delimiter, List.map_append, List.append_assoc]

theorem close (behind : p.Behind front lines q) (begins : p.firstLine = lines + q.firstLine)
    (body : Text) : (p.close body).Behind front lines (q.close body) := by
  rw [close_eq, close_eq]
  exact ⟨behind.append_made body begins, rfl, behind.delimiter, behind.linesRead,
    fun filled => absurd rfl filled⟩

theorem finish (behind : p.Behind front lines q) :
    p.finish = front ++ q.finish.map (moved front.length lines) := by
  by_cases idle : q.gathered = []
  · rw [finish_eq, finish_eq, pending_of_idle idle, pending_of_idle (behind.gathered.trans idle),
      List.append_nil, List.append_nil, behind.found]
  · have same : p.openText = q.openText := congrArg (Text.join ['\n']) behind.gathered
    rw [finish_eq, finish_eq, pending, pending, same]
    exact behind.append_made q.openText (behind.firstLine idle)

theorem redirect (behind : p.Behind front lines q) (next : Text) :
    (p.redirect next).Behind front lines (q.redirect next) := by
  by_cases idle : q.gathered = []
  · have both : p.gathered.isEmpty = true ∧ q.gathered.isEmpty = true := by
      simp [behind.gathered, idle]
    rw [Progress.redirect, Progress.redirect, if_pos both.1, if_pos both.2]
    exact ⟨behind.found, behind.gathered, rfl, behind.linesRead, behind.firstLine⟩
  · have neither : ¬ p.gathered.isEmpty = true ∧ ¬ q.gathered.isEmpty = true := by
      simp [behind.gathered, idle]
    have same : p.openText = q.openText := congrArg (Text.join ['\n']) behind.gathered
    have closed := behind.close (behind.firstLine idle) q.openText
    rw [Progress.redirect, Progress.redirect, if_neg neither.1, if_neg neither.2, same]
    exact ⟨closed.found, closed.gathered, rfl, closed.linesRead, closed.firstLine⟩

theorem gather (behind : p.Behind front lines q) (line : Text) :
    (p.gather line).Behind front lines (q.gather line) := by
  have begins : (if p.gathered.isEmpty then p.linesRead else p.firstLine) =
      lines + (if q.gathered.isEmpty then q.linesRead else q.firstLine) := by
    rw [behind.gathered]
    split
    · exact behind.linesRead
    · rename_i unended
      exact behind.firstLine (mt List.isEmpty_iff.mpr unended)
  have together : Behind front lines
      { p with
        firstLine := if p.gathered.isEmpty then p.linesRead else p.firstLine
        gathered := p.gathered ++ [line] }
      { q with
        firstLine := if q.gathered.isEmpty then q.linesRead else q.firstLine
        gathered := q.gathered ++ [line] } :=
    ⟨behind.found, by rw [behind.gathered], behind.delimiter, behind.linesRead, fun _ => begins⟩
  have whole : Text.trimEnd (Text.join ['\n'] (p.gathered ++ [line])) =
      Text.trimEnd (Text.join ['\n'] (q.gathered ++ [line])) := by rw [behind.gathered]
  cases ends : Text.endsWith (Text.trimEnd (Text.join ['\n'] (q.gathered ++ [line])))
      q.delimiter with
  | true =>
      simp only [Progress.gather, openText, whole, behind.delimiter, ends, if_true]
      rw [behind.delimiter] at together
      exact together.close begins _
  | false =>
      simp only [Progress.gather, openText, whole, behind.delimiter, ends, Bool.false_eq_true,
        if_false]
      rw [behind.delimiter] at together
      exact together

/-- The same line leads to states that are related in the same way. -/
theorem readLine (behind : p.Behind front lines q) (line : Text) :
    (p.readLine line).Behind front lines (q.readLine line) := by
  have next : Behind front lines { p with linesRead := p.linesRead + 1 }
      { q with linesRead := q.linesRead + 1 } :=
    ⟨behind.found, behind.gathered,
      behind.delimiter, by rw [behind.linesRead, Nat.add_assoc], behind.firstLine⟩
  rw [Progress.readLine, Progress.readLine]
  simp only [behind.gathered] at next ⊢
  by_cases skipped : (if q.gathered.isEmpty then isIdleLine line else isCommentLine line) = true
  · rw [if_pos skipped, if_pos skipped]
    exact next
  · rw [if_neg skipped, if_neg skipped]
    cases directive? line with
    | some delimiter => exact next.redirect delimiter
    | none => exact next.gather line

theorem foldl_readLine (behind : p.Behind front lines q) (script : List Text) :
    (script.foldl Progress.readLine p).Behind front lines (script.foldl Progress.readLine q) := by
  induction script generalizing p q with
  | nil => exact behind
  | cons line rest ih => exact ih (behind.readLine line)

end Behind

/-- Where nothing is open, the next line is like the first one of a script. -/
theorem behind_start {p : Progress} (idle : p.gathered = []) :
    p.Behind p.found p.linesRead (start p.delimiter) where
  found := (List.append_nil _).symm
  gathered := idle
  delimiter := rfl
  linesRead := rfl
  firstLine filled := absurd rfl filled

theorem linesRead_step {p q : Progress} {line : Text} (reading : Reading p line q) :
    q.linesRead = p.linesRead + 1 := by
  cases reading with
  | passed _ => rfl
  | redirected _ => rfl
  | joined _ _ => rfl
  | ended _ _ _ => rfl
  | discarded _ _ => rfl

theorem linesRead_foldl_readLine (p : Progress) (lines : List Text) :
    (lines.foldl readLine p).linesRead = p.linesRead + lines.length := by
  induction lines generalizing p with
  | nil => rfl
  | cons line rest ih =>
      rw [List.foldl_cons, ih, linesRead_step (reading_readLine p line), List.length_cons]
      omega

end Progress

theorem linesRead_readLines (delimiter script : Text) :
    (readLines delimiter script).linesRead = (rawLines script).length := by
  rw [readLines, Progress.linesRead_foldl_readLine, trimmedLines_eq, List.length_map]
  exact Nat.zero_add _

theorem readLines_append {first joined second delimiter : Text}
    (lines : rawLines joined = rawLines first ++ rawLines second) :
    readLines delimiter joined = ((rawLines second).map Text.trim).foldl Progress.readLine
      (readLines delimiter first) := by
  rw [readLines, trimmedLines_eq, lines, List.map_append, List.foldl_append]
  rfl

/-- The statements that a script has ended are there whatever comes behind it, even where the
line feed between the two goes with a carriage return. -/
theorem found_prefix_split (delimiter first second : Text)
    (unended : (readLines delimiter first).gathered ≠ []) :
    (readLines delimiter first).found <+: split delimiter (first ++ '\n' :: second) := by
  by_cases closed : first.getLast? = some '\r'
  · rcases List.getLast?_eq_some_iff.mp closed with ⟨front, rfl⟩
    rcases rawLines_append_returnFeed front second with ⟨lines, blank⟩
    have last : readLines delimiter (front ++ ['\r']) =
        (readLines delimiter front).readLine [] := by
      rw [readLines, trimmedLines_eq, blank, List.map_append, List.foldl_append]
      rfl
    rw [last] at unended ⊢
    rw [Progress.found_eq_of_open (Progress.reading_readLine _ _) unended, List.append_assoc,
      List.singleton_append, split, readLines_append lines]
    exact Progress.found_prefix _ _
  · rw [split, readLines_append (rawLines_append_feed closed second)]
    exact Progress.found_prefix _ _

/-- Splitting is compositional.  Where a script leaves nothing open, the script behind it is
split with the delimiter that is active there, and its statements are moved on by the statements
and the lines of the first.  Where a script leaves a statement open, that one is the last of its
own, and all before it are kept. -/
theorem split_append_feed (delimiter first second : Text) :
    (first.getLast? ≠ some '\r' -> (readLines delimiter first).gathered = [] ->
        split delimiter (first ++ '\n' :: second) =
          split delimiter first ++ (split (readLines delimiter first).delimiter second).map
            (moved (split delimiter first).length (rawLines first).length)) ∧
      ((readLines delimiter first).gathered ≠ [] ->
        exists ended last, split delimiter first = ended ++ [last] ∧
          ended <+: split delimiter (first ++ '\n' :: second)) := by
  constructor
  · intro closed idle
    have here : split delimiter first = (readLines delimiter first).found := by
      rw [split, Progress.finish_eq, Progress.pending_of_idle idle, List.append_nil]
    have behind := (Progress.behind_start idle).foldl_readLine ((rawLines second).map Text.trim)
    rw [← readLines_append (rawLines_append_feed closed second)] at behind
    rw [here, ← linesRead_readLines delimiter first]
    exact behind.finish
  · intro unended
    have whole := Progress.finish_eq (readLines delimiter first)
    rw [(Progress.opened_readLines delimiter first).pending_eq unended] at whole
    exact ⟨_, _, whole, found_prefix_split delimiter first second unended⟩

/-- A script that changes the delimiter. -/
def redirecting : Text :=
  "SELECT 1;\nDELIMITER //\n-- the rest".toList

/-- A script that is one statement with that delimiter, and would be two with the other. -/
def redirected : Text :=
  "SELECT 2;\nSELECT 3//\n".toList

/-- A script that leaves a statement open. -/
def unended : Text :=
  "SELECT 1;\nSELECT 2".toList

/-- One script behind another that changes the delimiter, and behind one that
leaves a statement open. -/
theorem split_redirected_and_unended :
    (redirecting.getLast? ≠ some '\r' ∧ (readLines [';'] redirecting).gathered = [] ∧
        split [';'] (redirecting ++ '\n' :: redirected) =
          [⟨"SELECT 1".toList, [';'], 0, 1⟩, ⟨"SELECT 2;\nSELECT 3".toList, ['/', '/'], 1, 4⟩]) ∧
      (readLines [';'] unended).gathered ≠ [] ∧
        exists ended last, split [';'] unended = ended ++ [last] ∧
          ended <+: split [';'] (unended ++ '\n' :: redirected) := by
  have closed : redirecting.getLast? ≠ some '\r' := by decide +kernel
  have idle : (readLines [';'] redirecting).gathered = [] := by decide +kernel
  have filled : (readLines [';'] unended).gathered ≠ [] := by decide +kernel
  refine ⟨⟨closed, idle, ?_⟩, filled, (split_append_feed [';'] unended redirected).2 filled⟩
  rw [(split_append_feed [';'] redirecting redirected).1 closed idle]
  decide +kernel

end Statement
end SchemaAtlas
