import SchemaAtlas.Proofs.Insert.Rows

namespace SchemaAtlas
namespace Insert

/-!
Where rows begin and end.

A text is closed when its quotes and its parentheses are: it is made of plain characters, of
literals, and of closed texts in parentheses, nested to any depth.  The row reader finds closed
texts again, one for each group of a list of values, and leaves out a group at the end that is not
closed.

Both readers count parentheses while they look for quotes.  What they count is the same: inside a
row, the row reader stands one parenthesis deeper than the cell reader does in the text of that row.
So the argument is made once, about the states of the cell reader, and a text is closed exactly
where this reader comes out of it as it went in.
-/

/-! The states of the cell reader. -/

/-- Where the cell reader stands: inside or outside literals, and below how many parentheses. -/
structure CellState where
  quoting : Quoting
  depth : Nat
deriving DecidableEq

namespace CellState

/-- Outside of literals and parentheses, where a row begins. -/
def outside : CellState := ⟨.plain, 0⟩

/-- The state behind one more character. -/
def step (s : CellState) (c : Char) : CellState :=
  ⟨s.quoting.step c, cellDepth s.quoting s.depth c⟩

def after (s : CellState) (t : Text) : CellState :=
  t.foldl step s

/-- The reader does not meet the mark outside of literals and parentheses. -/
def Spares (mark : Char) : CellState -> Text -> Prop
  | _, [] => True
  | s, c :: rest => (s = outside -> c ≠ mark) ∧ Spares mark (s.step c) rest

instance decidableSpares (mark : Char) :
    (s : CellState) -> (t : Text) -> Decidable (Spares mark s t)
  | _, [] => inferInstanceAs (Decidable True)
  | s, c :: rest =>
    have := decidableSpares mark (s.step c) rest
    inferInstanceAs (Decidable ((s = outside -> c ≠ mark) ∧ Spares mark (s.step c) rest))

theorem spares_append {mark : Char} {s : CellState} {first second : Text}
    (sparesFirst : Spares mark s first) (sparesSecond : Spares mark (s.after first) second) :
    Spares mark s (first ++ second) := by
  induction first generalizing s with
  | nil => exact sparesSecond
  | cons c rest ih => exact ⟨sparesFirst.1, ih sparesFirst.2 sparesSecond⟩

end CellState

/-- The text takes the cell reader from one state to another, and no parenthesis in it
closes what is not open. -/
structure Carries (t : Text) (first last : CellState) : Prop where
  arrives : first.after t = last
  matched : first.Spares ')' t

namespace Carries

theorem nil (s : CellState) : Carries [] s s :=
  ⟨rfl, trivial⟩

theorem append {start middle last : CellState} {first second : Text}
    (carriesFirst : Carries first start middle) (carriesSecond : Carries second middle last) :
    Carries (first ++ second) start last where
  arrives := by
    rw [CellState.after, List.foldl_append]
    change (start.after first).after second = last
    rw [carriesFirst.arrives, carriesSecond.arrives]
  matched := by
    refine CellState.spares_append carriesFirst.matched ?_
    rw [carriesFirst.arrives]
    exact carriesSecond.matched

/-- A text without a parenthesis outside literals moves the state of quoting alone. -/
theorem of_passes {quoting : Quoting} {t : Text} (passes : Quoting.Passes isParen quoting t)
    (depth : Nat) : Carries t ⟨quoting, depth⟩ ⟨quoting.after t, depth⟩ := by
  induction t generalizing quoting with
  | nil => exact nil _
  | cons c rest ih =>
      have level : cellDepth quoting depth c = depth := by
        by_cases plain : quoting = .plain
        · have noParen := passes.1 plain
          simp only [isParen, Bool.or_eq_false_iff] at noParen
          simp [cellDepth, noParen.1, noParen.2]
        · simp [cellDepth, plain]
      have moved : CellState.step ⟨quoting, depth⟩ c = ⟨quoting.step c, depth⟩ := by
        rw [CellState.step, level]
      have here : Carries [c] ⟨quoting, depth⟩ ⟨quoting.step c, depth⟩ := by
        refine ⟨moved, ?_, trivial⟩
        rintro atTop rfl
        exact absurd (passes.1 (congrArg CellState.quoting atTop)) (by decide)
      exact here.append (ih passes.2)

theorem of_sealed {t : Text} (sealedText : Sealed isParen t) (depth : Nat) :
    Carries t ⟨.plain, depth⟩ ⟨.plain, depth⟩ := by
  have carries := of_passes sealedText.passes depth
  rwa [sealedText.returns] at carries

end Carries

/-- The cell reader comes out of the text as it went in. -/
def Balanced (t : Text) : Prop :=
  Carries t CellState.outside CellState.outside

instance (t : Text) : Decidable (Balanced t) :=
  decidable_of_iff (CellState.outside.after t = CellState.outside ∧ CellState.outside.Spares ')' t)
    ⟨fun facts => ⟨facts.1, facts.2⟩, fun balanced => ⟨balanced.arrives, balanced.matched⟩⟩

/-! The row reader inside a row. -/

namespace RowSearch

/-- Inside a row, a character moves both readers alike, unless it closes the row. -/
theorem step_inside {state : CellState} {c : Char} (stays : state = CellState.outside -> c ≠ ')')
    (reversed : Text) : step ⟨state.quoting, state.depth + 1, reversed⟩ c =
      (⟨(state.step c).quoting, (state.step c).depth + 1, c :: reversed⟩, none) := by
  rcases state with ⟨quoting, depth⟩
  by_cases plain : quoting = .plain
  · subst plain
    by_cases opening : c = '('
    · subst opening
      simp [step, CellState.step, cellDepth, Quoting.step, Literal.isQuote]
    · by_cases closing : c = ')'
      · subst closing
        cases depth with
        | zero => exact absurd rfl (stays rfl)
        | succ depth => simp [step, CellState.step, cellDepth, Quoting.step, Literal.isQuote]
      · simp [step, keep, CellState.step, cellDepth, opening, closing]
  · simp [step, keep, CellState.step, cellDepth, plain]

/-- Inside a row, a text moves both readers alike, and it belongs to the row. -/
theorem rows_inside {first last : CellState} {t : Text} (carries : Carries t first last)
    (reversed rest : Text) : rows ⟨first.quoting, first.depth + 1, reversed⟩ (t ++ rest) =
      rows ⟨last.quoting, last.depth + 1, t.reverse ++ reversed⟩ rest := by
  induction t generalizing first reversed with
  | nil =>
      cases carries.arrives
      rfl
  | cons c more ih =>
      have unfolded : rows ⟨first.quoting, first.depth + 1, reversed⟩ (c :: more ++ rest) =
          rows ⟨(first.step c).quoting, (first.step c).depth + 1, c :: reversed⟩
            (more ++ rest) := by
        simp only [List.cons_append, rows, step_inside carries.matched.1, Option.toList_none,
          List.nil_append]
      rw [unfolded, ih ⟨carries.arrives, carries.matched.2⟩, List.reverse_cons, List.append_assoc,
        List.singleton_append]

/-- A balanced text in parentheses is one row. -/
theorem rows_balanced {t : Text} (balanced : Balanced t) (rest : Text) :
    start.rows (inParens t ++ rest) = t :: start.rows rest := by
  have shape : inParens t ++ rest = '(' :: (t ++ ')' :: rest) := by simp [inParens]
  have opened : start.rows ('(' :: (t ++ ')' :: rest)) =
    rows ⟨.plain, 1, []⟩ (t ++ ')' :: rest) := rfl
  have inside : rows ⟨.plain, 1, []⟩ (t ++ ')' :: rest) =
      rows ⟨.plain, 1, t.reverse ++ []⟩ (')' :: rest) :=
    rows_inside balanced [] (')' :: rest)
  have completed : rows ⟨.plain, 1, t.reverse⟩ (')' :: rest) =
    t.reverse.reverse :: start.rows rest := rfl
  rw [shape, opened, inside, List.append_nil, completed, List.reverse_reverse]

/-- A group that is not closed gives no row. -/
theorem rows_unclosed {t : Text} (balanced : Balanced t) : start.rows ('(' :: t) = [] := by
  have inside := rows_inside balanced [] []
  rw [List.append_nil] at inside
  exact inside

end RowSearch

/-! Closed texts. -/

/-- The inside of a literal between two quotes: these quotes stand in pairs, and a backslash
stands in front of any character. -/
inductive Inside (quote : Char) : Text -> Prop
  | nil : Inside quote []
  | plain {c : Char} {rest : Text} (noQuote : c ≠ quote) (noBackslash : c ≠ '\\')
      (later : Inside quote rest) :
      Inside quote (c :: rest)
  | pair {rest : Text} (later : Inside quote rest) : Inside quote (quote :: quote :: rest)
  | escape (c : Char) {rest : Text} (later : Inside quote rest) : Inside quote ('\\' :: c :: rest)

/-- A text whose literals and parentheses are closed. -/
inductive Closed : Text -> Prop
  | nil : Closed []
  | plain {c : Char} {rest : Text} (noQuote : Literal.isQuote c = false)
      (noParen : isParen c = false)
      (later : Closed rest) : Closed (c :: rest)
  | literal {quote : Char} {body rest : Text} (isQuote : Literal.isQuote quote = true)
      (inside : Inside quote body)
      (later : Closed rest) : Closed (quote :: (body ++ quote :: rest))
  | group {inner rest : Text} (inside : Closed inner) (later : Closed rest) :
      Closed ('(' :: (inner ++ ')' :: rest))

theorem ne_backslash_of_isQuote {quote : Char} (isQuote : Literal.isQuote quote = true) :
    quote ≠ '\\' := by
  rintro rfl
  exact absurd isQuote (by decide)

theorem isParen_of_isQuote {quote : Char} (isQuote : Literal.isQuote quote = true) :
    isParen quote = false := by
  simp only [Literal.isQuote, Bool.or_eq_true, beq_iff_eq] at isQuote
  rcases isQuote with rfl | rfl <;> decide

/-- The state of quoting comes back at the end of the inside of a literal, and only a
quote is ever met outside. -/
theorem Inside.passes {test : Char -> Bool} {quote : Char} (isQuote : Literal.isQuote quote = true)
    (quoteFree : test quote = false) {body : Text} (inside : Inside quote body) :
    Quoting.Passes test (.inside quote) body ∧
      Quoting.after (.inside quote) body = .inside quote := by
  have closes : Quoting.step (.inside quote) quote = .plain := by
    simp [Quoting.step, ne_backslash_of_isQuote isQuote]
  have opens : Quoting.step .plain quote = .inside quote := by simp [Quoting.step, isQuote]
  induction inside with
  | nil => exact ⟨trivial, rfl⟩
  | @plain c rest noQuote noBackslash _ ih =>
      have stays : Quoting.step (.inside quote) c = .inside quote := by
        simp [Quoting.step, noQuote, noBackslash]
      constructor
      · refine ⟨by simp, ?_⟩
        rw [stays]
        exact ih.1
      · change Quoting.after (Quoting.step (.inside quote) c) rest = _
        rw [stays]
        exact ih.2
  | @pair rest _ ih =>
      constructor
      · refine ⟨by simp, fun _ => quoteFree, ?_⟩
        rw [closes, opens]
        exact ih.1
      · change Quoting.after ((Quoting.step (.inside quote) quote).step quote) rest = _
        rw [closes, opens]
        exact ih.2
  | @escape c rest _ ih =>
      have escaped : Quoting.step (.inside quote) '\\' = .escaped quote := rfl
      constructor
      · refine ⟨by simp, ?_⟩
        rw [escaped]
        exact ⟨by simp, ih.1⟩
      · exact ih.2

/-- A literal is sealed against every test that its quote does not satisfy. -/
theorem sealed_literal {test : Char -> Bool} {quote : Char} {body : Text}
    (isQuote : Literal.isQuote quote = true) (quoteFree : test quote = false)
    (inside : Inside quote body) : Sealed test (quote :: (body ++ [quote])) := by
  have opened : Quoting.step .plain quote = .inside quote := by simp [Quoting.step, isQuote]
  have closed : Quoting.after (.inside quote) [quote] = .plain := by
    simp [Quoting.after, Quoting.step, ne_backslash_of_isQuote isQuote]
  rcases inside.passes isQuote quoteFree with ⟨passes, back⟩
  constructor
  · refine ⟨fun _ => quoteFree, ?_⟩
    rw [opened]
    refine Quoting.passes_append passes ?_
    rw [back]
    exact ⟨by simp, trivial⟩
  · change Quoting.after (Quoting.step .plain quote) (body ++ [quote]) = .plain
    rw [opened, Quoting.after_append, back, closed]

namespace Closed

theorem append {first second : Text} (closedFirst : Closed first) (closedSecond : Closed second) :
    Closed (first ++ second) := by
  induction closedFirst with
  | nil => exact closedSecond
  | plain noQuote noParen _ ih => exact plain noQuote noParen ih
  | literal isQuote inside _ ih =>
      rw [List.cons_append, List.append_assoc]
      exact literal isQuote inside ih
  | group inside _ _ ih =>
      rw [List.cons_append, List.append_assoc]
      exact group inside ih

/-- Below any number of parentheses, the cell reader comes out of a closed text as it went in. -/
theorem carries {t : Text} (closed : Closed t) (depth : Nat) :
    Carries t ⟨.plain, depth⟩ ⟨.plain, depth⟩ := by
  induction closed generalizing depth with
  | nil => exact Carries.nil _
  | @plain c rest noQuote noParen _ ih =>
      have single : Sealed isParen [c] := Sealed.of_forall (by simpa using ⟨noQuote, noParen⟩)
      exact (Carries.of_sealed single depth).append (ih depth)
  | @literal quote body rest isQuote inside _ ih =>
      have whole :=
        (Carries.of_sealed (sealed_literal isQuote (isParen_of_isQuote isQuote) inside)
          depth).append (ih depth)
      simpa only [List.cons_append, List.append_assoc, List.nil_append] using whole
  | @group inner rest _ _ ihInner ihRest =>
      have opened : Carries ['('] ⟨.plain, depth⟩ ⟨.plain, depth + 1⟩ :=
        ⟨rfl, fun _ => by decide, trivial⟩
      have closed : Carries [')'] ⟨.plain, depth + 1⟩ ⟨.plain, depth⟩ :=
        ⟨rfl, by simp [CellState.outside], trivial⟩
      exact opened.append ((ihInner (depth + 1)).append (closed.append (ihRest depth)))

end Closed

/-! Balanced texts are closed. -/

/-- What follows below some parentheses: closed texts, with the parentheses that
close between them. -/
inductive Unwinds : Nat -> Text -> Prop
  | last {t : Text} (closed : Closed t) : Unwinds 0 t
  | close {depth : Nat} {t rest : Text} (closed : Closed t) (later : Unwinds depth rest) :
      Unwinds (depth + 1) (t ++ ')' :: rest)

theorem Unwinds.onto {front t : Text} {depth : Nat} (closedFront : Closed front)
    (unwinds : Unwinds depth t) : Unwinds depth (front ++ t) := by
  cases unwinds with
  | last closed => exact Unwinds.last (closedFront.append closed)
  | close closed later =>
      rw [← List.append_assoc]
      exact Unwinds.close (closedFront.append closed) later

/-- What follows a state of the cell reader: the rest of the literal that is open, and then what
follows below the open parentheses. -/
def Remains : CellState -> Text -> Prop
  | ⟨.plain, depth⟩, t => Unwinds depth t
  | ⟨.inside quote, depth⟩, t =>
    exists body rest, t = body ++ quote :: rest ∧ Inside quote body ∧ Unwinds depth rest
  | ⟨.escaped quote, depth⟩, t =>
    exists c body rest, t = c :: (body ++ quote :: rest) ∧ Inside quote body ∧ Unwinds depth rest

theorem unwinds_cons {depth : Nat} {c : Char} {rest : Text} (matched : depth = 0 -> c ≠ ')')
    (later : Remains (CellState.step ⟨.plain, depth⟩ c) rest) : Unwinds depth (c :: rest) := by
  by_cases isQuote : Literal.isQuote c = true
  · have opened : CellState.step ⟨.plain, depth⟩ c = ⟨.inside c, depth⟩ := by
      simp only [Literal.isQuote, Bool.or_eq_true, beq_iff_eq] at isQuote
      rcases isQuote with rfl | rfl <;> rfl
    rw [opened] at later
    rcases later with ⟨body, behind, rfl, inside, unwinds⟩
    have whole := unwinds.onto (Closed.literal isQuote inside Closed.nil)
    rwa [List.cons_append, List.append_assoc] at whole
  by_cases opening : c = '('
  · subst opening
    change Unwinds (depth + 1) rest at later
    cases later with
    | close inner unwinds =>
        have whole := unwinds.onto (Closed.group inner Closed.nil)
        rwa [List.cons_append, List.append_assoc] at whole
  by_cases closing : c = ')'
  · subst closing
    cases depth with
    | zero => exact absurd rfl (matched rfl)
    | succ depth => exact Unwinds.close Closed.nil later
  · have stays : CellState.step ⟨.plain, depth⟩ c = ⟨.plain, depth⟩ := by
      simp [CellState.step, Quoting.step, cellDepth, isQuote, opening, closing]
    rw [stays] at later
    have noParen : isParen c = false := by simp [isParen, opening, closing]
    exact later.onto (Closed.plain (Bool.not_eq_true _ ▸ isQuote) noParen Closed.nil)

theorem remains_inside_cons {quote : Char} {depth : Nat} {c : Char} {rest : Text}
    (later : Remains (CellState.step ⟨.inside quote, depth⟩ c) rest) :
    Remains ⟨.inside quote, depth⟩ (c :: rest) := by
  by_cases backslash : c = '\\'
  · subst backslash
    rcases later with ⟨d, body, behind, rfl, inside, unwinds⟩
    exact ⟨'\\' :: d :: body, behind, rfl, Inside.escape d inside, unwinds⟩
  by_cases closes : c = quote
  · have left : CellState.step ⟨.inside quote, depth⟩ c = ⟨.plain, depth⟩ := by
      simp [CellState.step, Quoting.step, cellDepth, closes, closes ▸ backslash]
    rw [left] at later
    exact ⟨[], rest, by rw [closes]; rfl, Inside.nil, later⟩
  · have stays : CellState.step ⟨.inside quote, depth⟩ c = ⟨.inside quote, depth⟩ := by
      simp [CellState.step, Quoting.step, cellDepth, backslash, closes]
    rw [stays] at later
    rcases later with ⟨body, behind, rfl, inside, unwinds⟩
    exact ⟨c :: body, behind, rfl, Inside.plain closes backslash inside, unwinds⟩

theorem Carries.remains {state : CellState} {t : Text}
    (carries : Carries t state CellState.outside) : Remains state t := by
  induction t generalizing state with
  | nil =>
      cases carries.arrives
      exact Unwinds.last Closed.nil
  | cons c rest ih =>
      have later := ih ⟨carries.arrives, carries.matched.2⟩
      rcases state with ⟨quoting, depth⟩
      cases quoting with
      | plain => exact unwinds_cons (fun atTop => carries.matched.1 (by rw [atTop]; rfl)) later
      | inside quote => exact remains_inside_cons later
      | escaped quote =>
          rcases later with ⟨body, behind, rfl, inside, unwinds⟩
          exact ⟨c, body, behind, rfl, inside, unwinds⟩

/-- The closed texts are exactly those that the cell reader comes through. -/
theorem closed_iff_balanced (t : Text) : Closed t ↔ Balanced t := by
  refine ⟨fun closed => closed.carries 0, fun balanced => ?_⟩
  have unwinds : Unwinds 0 t := balanced.remains
  cases unwinds with
  | last closed => exact closed

instance (t : Text) : Decidable (Closed t) :=
  decidable_of_iff (Balanced t) (closed_iff_balanced t).symm

/-! Groups of a list of values. -/

/-- Text between the groups: it holds no quote and no parenthesis. -/
def Bare (t : Text) : Prop :=
  forall c, c ∈ t -> Literal.isQuote c = false ∧ isParen c = false

instance (t : Text) : Decidable (Bare t) :=
  List.decidableBAll _ t

/-- Texts in parentheses, each with the text behind it. -/
def groupsText (groups : List (Text × Text)) : Text :=
  groups.flatMap fun group => inParens group.1 ++ group.2

theorem RowSearch.rows_groupsText {groups : List (Text × Text)}
    (each : forall group, group ∈ groups -> Closed group.1 ∧ Bare group.2) (rest : Text) :
    start.rows (groupsText groups ++ rest) = groups.map Prod.fst ++ start.rows rest := by
  induction groups with
  | nil => rfl
  | cons group others ih =>
      rcases each group List.mem_cons_self with ⟨closed, bare⟩
      have later := ih fun other member => each other (List.mem_cons_of_mem group member)
      have shape : groupsText (group :: others) ++ rest =
          inParens group.1 ++ (group.2 ++ (groupsText others ++ rest)) := by
        simp only [groupsText, List.flatMap_cons, List.append_assoc]
      rw [shape, rows_balanced ((closed_iff_balanced _).mp closed),
        rows_between (Sealed.of_forall bare), later]
      rfl

/-- Row boundaries are exact.  Closed texts in parentheses are the rows, one for one and
character for character, with any bare text in front of them, between them and behind them; and a
group at the end that is not closed adds none. -/
theorem rowTexts_of_groups (front : Text) (groups : List (Text × Text)) (bareFront : Bare front)
    (each : forall group, group ∈ groups -> Closed group.1 ∧ Bare group.2) :
    rowTexts (front ++ groupsText groups) = groups.map Prod.fst ∧
      forall tail, Closed tail ->
        rowTexts (front ++ groupsText groups ++ '(' :: tail) = groups.map Prod.fst := by
  have found : forall rest, rowTexts (front ++ groupsText groups ++ rest) =
      groups.map Prod.fst ++ RowSearch.start.rows rest := by
    intro rest
    rw [rowTexts, List.append_assoc, RowSearch.rows_between (Sealed.of_forall bareFront)]
    exact RowSearch.rows_groupsText each rest
  constructor
  · have all := found []
    simpa only [List.append_nil, RowSearch.rows] using all
  · intro tail closed
    rw [found, RowSearch.rows_unclosed ((closed_iff_balanced tail).mp closed), List.append_nil]

/-- A row of literals that hold parentheses and quotes, a row of nested groups, and a third
one that is not closed. -/
theorem rowTexts_of_two_groups_and_half :
    rowTexts " ('it''s (', \"\\\")\"), (f((1), 2)) ; ".toList =
      ["'it''s (', \"\\\")\"".toList, "f((1), 2)".toList] ∧
      rowTexts " ('it''s (', \"\\\")\"), (f((1), 2)) ; (3, ')'".toList =
        ["'it''s (', \"\\\")\"".toList, "f((1), 2)".toList] := by
  have rows := rowTexts_of_groups " ".toList
    [("'it''s (', \"\\\")\"".toList, ", ".toList), ("f((1), 2)".toList, " ; ".toList)] (by decide)
      (by decide)
  exact ⟨rows.1, rows.2 "3, ')'".toList (by decide)⟩

end Insert
end SchemaAtlas
