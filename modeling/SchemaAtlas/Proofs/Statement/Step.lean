import SchemaAtlas.Proofs.Statement.Lines

namespace SchemaAtlas
namespace Statement

/-!
What one line of a script does.

A line is passed over, or it is a directive, or it joins the open statement, or it ends that
statement.  Nothing else happens.  So what holds of the state at every place of a script is seen
from these cases, one by one, and carried through the script once and for all.
-/

/-- The lines of a script as they stand, with the white space at their ends. -/
def rawLines (script : Text) : List Text :=
  Text.splitOn '\n' (unifyBreaks script)

theorem trimmedLines_eq (script : Text) : trimmedLines script = (rawLines script).map Text.trim :=
  rfl

/-- The statement that a text makes.  A blank text makes none. -/
def made (body delimiter : Text) (index line : Nat) : List Statement :=
  if (Text.trim body).isEmpty then [] else [⟨Text.trim body, delimiter, index, line⟩]

theorem mem_made {body delimiter : Text} {index line : Nat} {s : Statement} :
    s ∈ made body delimiter index line ↔ Text.trim body ≠ [] ∧
      s = ⟨Text.trim body, delimiter, index, line⟩ := by
  rw [made]
  split
  · rename_i blank
    simp [List.isEmpty_iff.mp blank]
  · rename_i filled
    simp [mt List.isEmpty_iff.mpr filled]

theorem made_nil (delimiter : Text) (index line : Nat) : made [] delimiter index line = [] :=
  rfl

namespace Progress

theorem close_eq (p : Progress) (body : Text) :
    p.close body =
      { p with
        found := p.found ++ made body p.delimiter p.found.length p.firstLine
        gathered := [] } := by
  simp only [close, made]
  split
  · rw [List.append_nil]
  · rfl

def pending (p : Progress) : List Statement :=
  made p.openText p.delimiter p.found.length p.firstLine

theorem pending_of_idle {p : Progress} (idle : p.gathered = []) : p.pending = [] := by
  rw [pending, openText, idle]
  rfl

theorem finish_eq (p : Progress) : p.finish = p.found ++ p.pending := by
  rw [finish]
  split
  · rename_i idle
    rw [pending_of_idle (List.isEmpty_iff.mp idle), List.append_nil]
  · rw [close_eq]
    rfl

/-- What a line makes of the state.  Without a delimiter every line ends what is open,
and nothing is left of it. -/
inductive Reading (p : Progress) (line : Text) : Progress -> Prop
  | passed (skipped : (if p.gathered.isEmpty then isIdleLine line else isCommentLine line) = true) :
      Reading p line { p with linesRead := p.linesRead + 1 }
  | redirected {next : Text} {interruptions : List Nat} (told : directive? line = some next) :
      Reading p line ⟨p.found ++ p.pending, [], p.firstLine, next, p.linesRead + 1, interruptions⟩
  | joined (takes : p.Takes line)
      (unended : Text.endsWith (Text.trimEnd (Text.join ['\n'] (p.gathered ++ [line])))
        p.delimiter = false) :
      Reading p line
        { p with
          gathered := p.gathered ++ [line]
          firstLine := p.beginning
          linesRead := p.linesRead + 1 }
  | ended {body : Text} (takes : p.Takes line) (marked : p.delimiter ≠ [])
      (whole : Text.trimEnd (Text.join ['\n'] (p.gathered ++ [line])) = body ++ p.delimiter) :
      Reading p line
        { p with
          found := p.found ++ made body p.delimiter p.found.length p.beginning
          gathered := []
          firstLine := p.beginning
          linesRead := p.linesRead + 1 }
  | discarded (takes : p.Takes line) (unmarked : p.delimiter = []) :
      Reading p line
        { p with
          gathered := []
          firstLine := p.beginning
          linesRead := p.linesRead + 1 }

theorem reading_redirect {p : Progress} {line next : Text} (told : directive? line = some next) :
    Reading p line ({ p with linesRead := p.linesRead + 1 }.redirect next) := by
  cases open? : p.gathered.isEmpty with
  | true =>
      have idle := List.isEmpty_iff.mp open?
      have reading : Reading p line
          ⟨p.found ++ p.pending, [], p.firstLine, next, p.linesRead + 1, p.interruptions⟩ :=
        .redirected told
      rw [pending_of_idle idle, List.append_nil] at reading
      simp only [redirect, open?, if_true]
      rwa [← idle] at reading
  | false =>
      simp only [redirect, open?, Bool.false_eq_true, if_false, close_eq]
      exact .redirected told

theorem reading_gather {p : Progress} {line : Text} (takes : p.Takes line) :
    Reading p line ({ p with linesRead := p.linesRead + 1 }.gather line) := by
  cases ends : Text.endsWith (Text.trimEnd (Text.join ['\n'] (p.gathered ++ [line])))
      p.delimiter with
  | false =>
      simp only [gather, openText, ends, Bool.false_eq_true, if_false]
      exact .joined takes ends
  | true =>
      simp only [gather, openText, ends, if_true, close_eq]
      by_cases marked : p.delimiter = []
      · have nothing : p.delimiter.isEmpty = true := List.isEmpty_iff.mpr marked
        simp only [nothing, if_true, made_nil, List.append_nil]
        exact .discarded takes marked
      · rcases List.isSuffixOf_iff_suffix.mp ends with ⟨body, split⟩
        have front : (body ++ p.delimiter).take
            ((body ++ p.delimiter).length - p.delimiter.length) = body := by
          rw [List.length_append, Nat.add_sub_cancel, List.take_left]
        rw [List.isEmpty_eq_false_iff.mpr marked, if_neg (by decide), ← split, front]
        exact .ended takes marked split.symm

/-- Each line is read in one of these ways. -/
theorem reading_readLine (p : Progress) (line : Text) : Reading p line (p.readLine line) := by
  rw [readLine]
  cases skipped : (if p.gathered.isEmpty then isIdleLine line else isCommentLine line) with
  | true =>
      exact .passed skipped
  | false =>
      simp only [Bool.false_eq_true, if_false]
      cases told : directive? line with
      | some next => exact reading_redirect told
      | none => exact reading_gather ⟨skipped, told⟩

/-- What holds before some lines and is kept by each of them holds behind them. -/
theorem holds_foldl_readLine {P : Progress -> Prop} {p : Progress} {lines : List Text} (holds : P p)
    (keeps : forall line, line ∈ lines -> forall q r, P q -> Reading q line r -> P r) :
    P (lines.foldl readLine p) :=
  List.foldlRecOn lines readLine holds fun q held line listed =>
    keeps line listed q _ held (reading_readLine q line)

end Progress
end Statement
end SchemaAtlas
