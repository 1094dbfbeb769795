import SchemaAtlas.Proofs.Insert.Nested

namespace SchemaAtlas
namespace Insert

/-!
The two readers of rows agree.

The row reader cuts a list of values into rows, and the cell reader goes through each row from its
beginning.  While a row is open, the search for rows knows where the cell reader stands behind the
part of the row that was read.  This is kept by every character, so the text of a row is always
balanced, whatever stands around it: the row reader finds it again in its own parentheses, and the
cell reader cuts it into pieces that are balanced again and hold no comma outside of literals and
parentheses.
-/

/-! Rows are balanced. -/

/-- What the search knows of the row that is open: the cell reader comes through the part that
was read, and stands there one parenthesis higher. -/
inductive Tracks : RowSearch -> Prop
  | between (quoting : Quoting) (reversed : Text) : Tracks ⟨quoting, 0, reversed⟩
  | within {t : Text} {state : CellState} (carries : Carries t CellState.outside state) :
      Tracks ⟨state.quoting, state.depth + 1, t.reverse⟩

/-- One character keeps track of the open row, and a row that it completes is balanced. -/
theorem Tracks.step {s : RowSearch} (tracks : Tracks s) (c : Char) :
    Tracks (s.step c).1 ∧ forall row, (s.step c).2 = some row -> Balanced row := by
  cases tracks with
  | between quoting reversed =>
      by_cases opening : quoting = .plain ∧ c = '('
      · rcases opening with ⟨rfl, rfl⟩
        exact ⟨Tracks.within (Carries.nil CellState.outside), fun _ completed => by cases completed⟩
      · have kept : RowSearch.step ⟨quoting, 0, reversed⟩ c =
            (⟨quoting.step c, 0, reversed⟩, none) := by
          simp [RowSearch.step, RowSearch.keep, opening]
        rw [kept]
        exact ⟨Tracks.between _ _, fun _ completed => by cases completed⟩
  | @within t state carries =>
      by_cases closing : state = CellState.outside ∧ c = ')'
      · rcases closing with ⟨rfl, rfl⟩
        refine ⟨Tracks.between _ _, ?_⟩
        intro row completed
        have same : t.reverse.reverse = row := Option.some.inj completed
        rw [← same, List.reverse_reverse]
        exact carries
      · have stays : state = CellState.outside -> c ≠ ')' :=
          fun atTop isClosing => closing ⟨atTop, isClosing⟩
        have longer : Carries (t ++ [c]) CellState.outside (state.step c) :=
          carries.append ⟨rfl, stays, trivial⟩
        have next := Tracks.within longer
        rw [List.reverse_append] at next
        rw [RowSearch.step_inside stays]
        exact ⟨next, fun _ completed => by cases completed⟩

/-- From any state that keeps track of its row, all rows that a text completes are balanced. -/
theorem Tracks.rows {s : RowSearch} (tracks : Tracks s) {t row : Text}
    (completed : row ∈ s.rows t) : Balanced row := by
  induction t generalizing s with
  | nil => cases completed
  | cons c rest ih =>
      rcases tracks.step c with ⟨next, balanced⟩
      rcases List.mem_append.mp completed with now | later
      · exact balanced row (Option.mem_toList.mp now)
      · exact ih next later

theorem balanced_of_mem_rowTexts {values row : Text} (found : row ∈ rowTexts values) :
    Balanced row :=
  (Tracks.between .plain []).rows found

/-! Pieces of a row. -/

theorem cellPieces_ne_nil (quoting : Quoting) (depth : Nat) (t : Text) :
    cellPieces quoting depth t ≠ [] := by
  cases t with
  | nil => exact List.cons_ne_nil _ _
  | cons c rest =>
      rw [cellPieces]
      split
      · exact List.cons_ne_nil _ _
      · cases cellPieces (quoting.step c) (cellDepth quoting depth c) rest <;>
          exact List.cons_ne_nil _ _

/-- Outside of literals and parentheses a comma cuts, and the reader stays there. -/
theorem cellPieces_comma (rest : Text) :
    cellPieces .plain 0 (',' :: rest) = [] :: cellPieces .plain 0 rest :=
  rfl

theorem cellPieces_cons {state : CellState} {c : Char}
    (uncut : state = CellState.outside -> c ≠ ',') (rest : Text) :
    cellPieces state.quoting state.depth (c :: rest) =
      Name.ontoFirst c (cellPieces (state.step c).quoting (state.step c).depth rest) := by
  have noComma : (state.quoting == .plain && c == ',' && state.depth == 0) = false := by
    rcases state with ⟨quoting, depth⟩
    rw [Bool.eq_false_iff]
    intro cut
    simp only [Bool.and_eq_true, beq_iff_eq] at cut
    rcases cut with ⟨⟨rfl, isComma⟩, rfl⟩
    exact uncut rfl isComma
  rw [cellPieces, noComma]
  rfl

/-- Whatever the text, its pieces with commas between them are the text. -/
theorem join_cellPieces (state : CellState) (t : Text) :
    Text.join [','] (cellPieces state.quoting state.depth t) = t := by
  induction t generalizing state with
  | nil => rfl
  | cons c rest ih =>
      by_cases comma : state = CellState.outside ∧ c = ','
      · rcases comma with ⟨rfl, rfl⟩
        have later := ih CellState.outside
        change Text.join [','] ([] :: cellPieces .plain 0 rest) = _
        change Text.join [','] (cellPieces .plain 0 rest) = rest at later
        cases pieces : cellPieces .plain 0 rest with
        | nil => exact absurd pieces (cellPieces_ne_nil _ _ _)
        | cons piece others =>
            rw [pieces] at later
            rw [Text.join_cons_cons, later]
            rfl
      · have later := ih (state.step c)
        rw [cellPieces_cons fun atTop isComma => comma ⟨atTop, isComma⟩]
        cases pieces : cellPieces (state.step c).quoting (state.step c).depth rest with
        | nil => exact absurd pieces (cellPieces_ne_nil _ _ _)
        | cons piece others =>
            rw [pieces] at later
            cases others with
            | nil =>
                rw [Text.join_singleton] at later
                rw [Name.ontoFirst, Text.join_singleton, later]
            | cons second others =>
                rw [Text.join_cons_cons] at later
                rw [Name.ontoFirst, Text.join_cons_cons, ← later]
                rfl

/-- A text without a comma outside of literals and parentheses is one piece. -/
theorem cellPieces_of_spares {state : CellState} {t : Text} (uncut : state.Spares ',' t) :
    cellPieces state.quoting state.depth t = [t] := by
  induction t generalizing state with
  | nil => rfl
  | cons c rest ih =>
      rw [cellPieces_cons uncut.1, ih uncut.2]
      rfl

/-- A piece of a row: the cell reader comes through it and is nowhere cut. -/
structure IsPiece (first : CellState) (piece : Text) : Prop where
  carries : Carries piece first CellState.outside
  uncut : first.Spares ',' piece

/-- The first piece goes on from where the reader stands, and every other one begins outside. -/
theorem isPiece_cellPieces {state : CellState} {t : Text}
    (carries : Carries t state CellState.outside) :
    exists piece others, cellPieces state.quoting state.depth t = piece :: others ∧
      IsPiece state piece ∧
      forall other, other ∈ others -> IsPiece CellState.outside other := by
  induction t generalizing state with
  | nil => exact ⟨[], [], rfl, ⟨carries, trivial⟩, by simp⟩
  | cons c rest ih =>
      rcases ih ⟨carries.arrives, carries.matched.2⟩ with ⟨piece, others, pieces, isPiece, each⟩
      by_cases comma : state = CellState.outside ∧ c = ','
      · rcases comma with ⟨rfl, rfl⟩
        refine ⟨[], piece :: others, ?_, ⟨Carries.nil _, trivial⟩, ?_⟩
        · exact (cellPieces_comma rest).trans (congrArg _ pieces)
        · intro other member
          rcases List.mem_cons.mp member with rfl | later
          · exact isPiece
          · exact each other later
      · have uncut : state = CellState.outside -> c ≠ ',' :=
          fun atTop isComma => comma ⟨atTop, isComma⟩
        refine ⟨c :: piece, others, ?_, ?_, each⟩
        · rw [cellPieces_cons uncut, pieces]
          rfl
        · exact ⟨⟨isPiece.carries.arrives, carries.matched.1, isPiece.carries.matched⟩, uncut,
            isPiece.uncut⟩

theorem isPiece_of_mem_cellTexts {row part : Text} (balanced : Balanced row)
    (member : part ∈ cellTexts row) : IsPiece CellState.outside part := by
  rcases isPiece_cellPieces balanced with ⟨piece, others, pieces, isPiece, each⟩
  unfold cellTexts at member
  split at member
  · cases member
  · rw [show cellPieces .plain 0 row = piece :: others from pieces] at member
    rcases List.mem_cons.mp member with rfl | later
    · exact isPiece
    · exact each part later

theorem join_cellTexts (row : Text) : Text.join [','] (cellTexts row) = row := by
  unfold cellTexts
  split
  · rename_i empty
    rw [List.isEmpty_iff.mp empty]
    rfl
  · exact join_cellPieces CellState.outside row

/-- What both readers make of the text of a row. -/
structure ReadersAgree (row : Text) : Prop where
  closed : Closed row
  again : rowTexts (inParens row) = [row]
  returns : CellState.outside.after row = CellState.outside
  matched : CellState.outside.Spares ')' row
  joined : Text.join [','] (cellTexts row) = row
  parts_return : forall part, part ∈ cellTexts row ->
    CellState.outside.after part = CellState.outside
  parts_matched : forall part, part ∈ cellTexts row -> CellState.outside.Spares ')' part
  parts_uncut : forall part, part ∈ cellTexts row -> CellState.outside.Spares ',' part
  parts_alone : forall part, part ∈ cellTexts row -> cellTexts part = if part = [] then []
    else [part]

/-- The two readers agree on every list of values.  The row reader finds a row again in
parentheses of its own.  The cell reader comes through it to the outside of literals and
parentheses, and no parenthesis on the way closes what is not open.  The cells with commas
between them are the row; each of them alone is read to its end in the same way, and no comma
cuts it. -/
theorem readersAgree_of_mem_rowTexts {values row : Text} (found : row ∈ rowTexts values) :
    ReadersAgree row := by
  have balanced := balanced_of_mem_rowTexts found
  have pieces := fun part => @isPiece_of_mem_cellTexts row part balanced
  constructor
  · exact (closed_iff_balanced row).mpr balanced
  · have rows := RowSearch.rows_balanced balanced []
    rwa [List.append_nil] at rows
  · exact balanced.arrives
  · exact balanced.matched
  · exact join_cellTexts row
  · exact fun part member => (pieces part member).carries.arrives
  · exact fun part member => (pieces part member).carries.matched
  · exact fun part member => (pieces part member).uncut
  · intro part member
    have whole : cellPieces .plain 0 part = [part] :=
      cellPieces_of_spares (pieces part member).uncut
    simp only [cellTexts, whole, List.isEmpty_iff]

/-- A row with nested groups, empty cells and literals, found among parentheses and
quotes that are not closed. -/
theorem readersAgree_in_clutter :
    "1, f(2, ')'),, \"a\"\"b,\"".toList ∈
      rowTexts ")' (' , (1, f(2, ')'),, \"a\"\"b,\") (3, 'open".toList ∧
      ReadersAgree "1, f(2, ')'),, \"a\"\"b,\"".toList := by
  have found : "1, f(2, ')'),, \"a\"\"b,\"".toList ∈
      rowTexts ")' (' , (1, f(2, ')'),, \"a\"\"b,\") (3, 'open".toList := by decide
  exact ⟨found, readersAgree_of_mem_rowTexts found⟩

end Insert
end SchemaAtlas
