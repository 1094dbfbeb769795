import SchemaAtlas.Insert.Rows
import SchemaAtlas.Proofs.Insert.Cell

namespace SchemaAtlas
namespace Insert

/-!
Rows and cells are found again where they were written.

Both readers go through a text with the same state of quoting.  A text is sealed when this state
comes back to the outside of literals at its end and no character that would cut it was met outside
literals on the way.  Written cells are sealed against parentheses and commas, whatever stands
inside their quotes; so the row reader gives back every row, and the cell reader every cell.
-/

/-- A character that opens or closes a group. -/
def isParen (c : Char) : Bool :=
  c == '(' || c == ')'

/-- A character that means something to one of the two readers outside literals. -/
def isCut (c : Char) : Bool :=
  isParen c || c == ','

theorem isParen_of_isCut {c : Char} (uncut : isCut c = false) : isParen c = false := by
  rw [isCut, Bool.or_eq_false_iff] at uncut
  exact uncut.1

namespace Quoting

def after (quoting : Quoting) (t : Text) : Quoting :=
  t.foldl step quoting

/-- No character of the text that stands outside literals satisfies the test. -/
def Passes (test : Char -> Bool) : Quoting -> Text -> Prop
  | _, [] => True
  | quoting, c :: rest => (quoting = .plain -> test c = false) ∧ Passes test (quoting.step c) rest

theorem after_append (quoting : Quoting) (first second : Text) :
    quoting.after (first ++ second) = (quoting.after first).after second :=
  List.foldl_append

theorem passes_append {test : Char -> Bool} {quoting : Quoting} {first second : Text}
    (passesFirst : Passes test quoting first)
    (passesSecond : Passes test (quoting.after first) second) :
    Passes test quoting (first ++ second) := by
  induction first generalizing quoting with
  | nil => exact passesSecond
  | cons c rest ih => exact ⟨passesFirst.1, ih passesFirst.2 passesSecond⟩

theorem passes_mono {test other : Char -> Bool} {quoting : Quoting} {t : Text}
    (weaker : forall c, test c = false -> other c = false) (passes : Passes test quoting t) :
    Passes other quoting t := by
  induction t generalizing quoting with
  | nil => trivial
  | cons c rest ih => exact ⟨fun outside => weaker c (passes.1 outside), ih passes.2⟩

end Quoting

/-- The text begins and ends outside literals, and no character outside them satisfies the test. -/
structure Sealed (test : Char -> Bool) (t : Text) : Prop where
  passes : Quoting.Passes test .plain t
  returns : Quoting.after .plain t = .plain

namespace Sealed

theorem nil (test : Char -> Bool) : Sealed test [] :=
  ⟨trivial, rfl⟩

theorem append {test : Char -> Bool} {first second : Text} (sealedFirst : Sealed test first)
    (sealedSecond : Sealed test second) : Sealed test (first ++ second) where
  passes := by
    refine Quoting.passes_append sealedFirst.passes ?_
    rw [sealedFirst.returns]
    exact sealedSecond.passes
  returns := by
    rw [Quoting.after_append, sealedFirst.returns, sealedSecond.returns]

theorem mono {test other : Char -> Bool} {t : Text}
    (weaker : forall c, test c = false -> other c = false) (closed : Sealed test t) :
    Sealed other t :=
  ⟨Quoting.passes_mono weaker closed.passes, closed.returns⟩

/-- A text without quotes is sealed against every test that none of its characters satisfies. -/
theorem of_forall {test : Char -> Bool} {t : Text}
    (plain : forall c, c ∈ t -> Literal.isQuote c = false ∧ test c = false) : Sealed test t := by
  induction t with
  | nil => exact nil _
  | cons c rest ih =>
      have here := plain c (by simp)
      have later := ih fun d member => plain d (List.mem_cons_of_mem _ member)
      have stays : Quoting.step .plain c = .plain := by simp [Quoting.step, here.1]
      constructor
      · refine ⟨fun _ => here.2, ?_⟩
        rw [stays]
        exact later.passes
      · change Quoting.after (Quoting.step .plain c) rest = .plain
        rw [stays]
        exact later.returns

/-- Joined texts are sealed where the separator and all of them are. -/
theorem join {test : Char -> Bool} {separator : Text} {parts : List Text}
    (sealedSeparator : Sealed test separator)
    (sealedParts : forall part, part ∈ parts -> Sealed test part) :
    Sealed test (Text.join separator parts) := by
  induction parts with
  | nil => exact nil _
  | cons first rest ih =>
      have sealedFirst := sealedParts first (by simp)
      have later := ih fun part member => sealedParts part (List.mem_cons_of_mem _ member)
      cases rest with
      | nil => rwa [Text.join_singleton]
      | cons second rest =>
          rw [Text.join_cons_cons]
          exact (sealedFirst.append sealedSeparator).append later

end Sealed

/-- Inside a literal, doubled quotes and doubled backslashes bring the state back inside: the quotes
by closing and opening, the backslashes by escaping one another. -/
theorem after_double_double (t : Text) :
    Quoting.after (.inside '\'') (Text.double '\'' (Text.double '\\' t)) = .inside '\'' := by
  induction t with
  | nil => rfl
  | cons c rest ih =>
      rw [Text.double_cons]
      by_cases backslash : c = '\\'
      · subst backslash
        exact ih
      · rw [if_neg backslash, List.singleton_append, Text.double_cons]
        by_cases quote : c = '\''
        · subst quote
          exact ih
        · rw [if_neg quote, List.singleton_append]
          have stays : Quoting.step (.inside '\'') c = .inside '\'' := by
            simp [Quoting.step, backslash, quote]
          change Quoting.after (Quoting.step (.inside '\'') c) _ = _
          rw [stays]
          exact ih

theorem passes_double_double {test : Char -> Bool} (quoteFree : test '\'' = false) (t : Text) :
    Quoting.Passes test (.inside '\'') (Text.double '\'' (Text.double '\\' t)) := by
  induction t with
  | nil => trivial
  | cons c rest ih =>
      rw [Text.double_cons]
      by_cases backslash : c = '\\'
      · subst backslash
        exact ⟨nofun, nofun, ih⟩
      · rw [if_neg backslash, List.singleton_append, Text.double_cons]
        by_cases quote : c = '\''
        · subst quote
          exact ⟨nofun, fun _ => quoteFree, ih⟩
        · rw [if_neg quote, List.singleton_append]
          have stays : Quoting.step (.inside '\'') c = .inside '\'' := by
            simp [Quoting.step, backslash, quote]
          refine ⟨nofun, ?_⟩
          rw [stays]
          exact ih

theorem sealed_single_double {test : Char -> Bool} (quoteFree : test '\'' = false) (t : Text) :
    Sealed test (Literal.single (Text.double '\\' t)) := by
  have shape : Literal.single (Text.double '\\' t) =
      ['\''] ++ (Text.double '\'' (Text.double '\\' t) ++ ['\'']) := rfl
  have opened : Quoting.after .plain ['\''] = .inside '\'' := rfl
  have closed : Quoting.after (.inside '\'') ['\''] = .plain := rfl
  rw [shape]
  constructor
  · refine Quoting.passes_append ⟨fun _ => quoteFree, trivial⟩ ?_
    rw [opened]
    refine Quoting.passes_append (passes_double_double quoteFree t) ?_
    rw [after_double_double]
    exact ⟨nofun, trivial⟩
  · rw [Quoting.after_append, opened, Quoting.after_append, after_double_double, closed]

/-- A written cell cuts nothing, whatever it holds. -/
theorem Cell.written_sealed (cell : Cell) : Sealed isCut cell.written := by
  cases cell with
  | null => exact Sealed.of_forall (List.all_iff_forall_prop.mp (by decide))
  | truth b => cases b <;> exact Sealed.of_forall (List.all_iff_forall_prop.mp (by decide))
  | whole n short =>
      apply Sealed.of_forall
      intro c member
      have number := isNumberChar_of_mem_ofInt member
      have apart : forall d : Char, isNumberChar d = false -> (c == d) = false := by
        intro d outside
        apply beq_eq_false_iff_ne.mpr
        rintro rfl
        exact absurd number (by simp [outside])
      simp [Literal.isQuote, isCut, isParen, apart '\'' (by decide), apart '"' (by decide),
        apart '(' (by decide), apart ')' (by decide), apart ',' (by decide)]
  | line t unbroken => exact sealed_single_double (by decide) t

/-! The row reader. -/

namespace RowSearch

/-- A text without a parenthesis outside literals only moves the state of quoting, and it belongs to
the row that is open, if there is one. -/
theorem rows_passes (s : RowSearch) {t : Text} (passes : Quoting.Passes isParen s.quoting t)
    (rest : Text) : s.rows (t ++ rest) =
      rows ⟨s.quoting.after t, s.depth, if s.depth = 0 then s.reversed else t.reverse ++ s.reversed⟩
        rest := by
  induction t generalizing s with
  | nil =>
      rcases s with ⟨quoting, depth, reversed⟩
      simp [Quoting.after]
  | cons c more ih =>
      rcases s with ⟨quoting, depth, reversed⟩
      have noOpening : (quoting == .plain && c == '(') = false := by
        by_cases outside : quoting = .plain
        · have noParen := passes.1 outside
          simp only [isParen, Bool.or_eq_false_iff] at noParen
          simp [noParen.1]
        · simp [outside]
      have noClosing : (quoting == .plain && c == ')') = false := by
        by_cases outside : quoting = .plain
        · have noParen := passes.1 outside
          simp only [isParen, Bool.or_eq_false_iff] at noParen
          simp [noParen.2]
        · simp [outside]
      have kept : (RowSearch.mk quoting depth reversed).step c =
          ((RowSearch.mk quoting depth reversed).keep c, none) := by
        simp only [step, noOpening, noClosing, Bool.false_and, Bool.false_eq_true, if_false]
      have unfolded : (RowSearch.mk quoting depth reversed).rows (c :: more ++ rest) =
          ((RowSearch.mk quoting depth reversed).keep c).rows (more ++ rest) := by
        simp [rows, kept]
      rw [unfolded, ih ((RowSearch.mk quoting depth reversed).keep c) passes.2]
      by_cases atTop : depth = 0
      · simp [keep, atTop, Quoting.after]
      · simp [keep, atTop, Quoting.after]

/-- A group in parentheses outside all others is one row. -/
theorem rows_group {t : Text} (closed : Sealed isParen t) (rest : Text) :
    start.rows ('(' :: (t ++ ')' :: rest)) = t :: start.rows rest := by
  have opened : start.rows ('(' :: (t ++ ')' :: rest)) =
    rows ⟨.plain, 1, []⟩ (t ++ ')' :: rest) := rfl
  have completed : rows ⟨.plain, 1, t.reverse⟩ (')' :: rest) =
    t.reverse.reverse :: start.rows rest := rfl
  rw [opened, rows_passes ⟨.plain, 1, []⟩ closed.passes]
  simp only [Nat.one_ne_zero, if_false, List.append_nil, closed.returns]
  rw [completed, List.reverse_reverse]

/-- A text between the groups is passed over. -/
theorem rows_between {t : Text} (closed : Sealed isParen t) (rest : Text) :
    start.rows (t ++ rest) = start.rows rest := by
  rw [rows_passes start closed.passes]
  change rows ⟨Quoting.after .plain t, 0, []⟩ rest = start.rows rest
  rw [closed.returns]
  rfl

end RowSearch

def inParens (t : Text) : Text :=
  '(' :: (t ++ [')'])

/-- Texts in parentheses are rows, one after another, in front of whatever rows follow. -/
theorem RowSearch.rows_join_inParens {separator : Text} {texts : List Text}
    (sealedSeparator : Sealed isParen separator)
    (sealedTexts : forall t, t ∈ texts -> Sealed isParen t) (rest : Text) :
    start.rows (Text.join separator (texts.map inParens) ++ rest) = texts ++ start.rows rest := by
  induction texts with
  | nil => rfl
  | cons first others ih =>
      have sealedFirst := sealedTexts first (by simp)
      have later := ih fun t member => sealedTexts t (List.mem_cons_of_mem _ member)
      cases others with
      | nil =>
          rw [List.map_cons, List.map_nil, Text.join_singleton, inParens, List.cons_append,
            List.append_assoc]
          exact rows_group sealedFirst rest
      | cons second others =>
          have shape : Text.join separator ((first :: second :: others).map inParens) ++ rest =
              '(' :: (first ++
                ')' :: (separator ++
                  (Text.join separator ((second :: others).map inParens) ++ rest))) := by
            simp only [List.map_cons, Text.join_cons_cons, inParens, List.cons_append,
              List.append_assoc, List.nil_append]
          rw [shape, rows_group sealedFirst, rows_between sealedSeparator, later]
          rfl

/-- The rows of a list of values are the texts that were put in parentheses. -/
theorem rowTexts_join_inParens {separator : Text} {texts : List Text}
    (sealedSeparator : Sealed isParen separator)
    (sealedTexts : forall t, t ∈ texts -> Sealed isParen t) :
    rowTexts (Text.join separator (texts.map inParens)) = texts := by
  have rows := RowSearch.rows_join_inParens sealedSeparator sealedTexts []
  simpa [rowTexts, RowSearch.rows] using rows

/-- One text in parentheses is one row. -/
theorem rowTexts_inParens {t : Text} (closed : Sealed isParen t) : rowTexts (inParens t) = [t] := by
  have rows : rowTexts (Text.join [] ([t].map inParens)) = [t] :=
    rowTexts_join_inParens (Sealed.nil _) fun _ listed => List.mem_singleton.mp listed ▸ closed
  rwa [List.map_singleton, Text.join_singleton] at rows

/-! The cell reader. -/

theorem foldr_ontoFirst (t : Text) (piece : Text) (pieces : List Text) :
    t.foldr Name.ontoFirst (piece :: pieces) = (t ++ piece) :: pieces := by
  induction t with
  | nil => rfl
  | cons c rest ih =>
      rw [List.foldr_cons, ih]
      rfl

theorem cellPieces_passes {quoting : Quoting} {t : Text} (passes : Quoting.Passes isCut quoting t)
    (rest : Text) :
    cellPieces quoting 0 (t ++ rest) = t.foldr Name.ontoFirst
      (cellPieces (quoting.after t) 0 rest) := by
  induction t generalizing quoting with
  | nil => rfl
  | cons c more ih =>
      have apart : quoting = .plain -> (c == '(') = false ∧ (c == ')') = false ∧
          (c == ',') = false := by
        intro outside
        have uncut := passes.1 outside
        simp only [isCut, isParen, Bool.or_eq_false_iff] at uncut
        exact ⟨uncut.1.1, uncut.1.2, uncut.2⟩
      have noComma : (quoting == .plain && c == ',' && (0 : Nat) == 0) = false := by
        by_cases outside : quoting = .plain
        · simp [(apart outside).2.2]
        · simp [outside]
      have level : cellDepth quoting 0 c = 0 := by
        by_cases outside : quoting = .plain
        · simp [cellDepth, (apart outside).1, (apart outside).2.1]
        · simp [cellDepth, outside]
      have unfolded : cellPieces quoting 0 (c :: more ++ rest) =
          Name.ontoFirst c (cellPieces (quoting.step c) 0 (more ++ rest)) := by
        simp only [List.cons_append, cellPieces, noComma, level, Bool.false_eq_true, if_false]
      rw [unfolded, ih passes.2, List.foldr_cons]
      rfl

/-- The pieces of joined texts are these texts, with the padding of the separator in
front of all but the first. -/
theorem cellPieces_join {padding first : Text} {rest : List Text}
    (sealedPadding : Sealed isCut padding)
    (sealedParts : forall part, part ∈ first :: rest -> Sealed isCut part) :
    cellPieces .plain 0 (Text.join (',' :: padding) (first :: rest)) =
      first :: rest.map (padding ++ ·) := by
  -- as in splitting, the padding is carried in front of the first part
  have padded : forall (front first : Text) (rest : List Text), Sealed isCut front ->
      (forall part, part ∈ first :: rest -> Sealed isCut part) ->
      cellPieces .plain 0 (front ++ Text.join (',' :: padding) (first :: rest)) =
        (front ++ first) :: rest.map (padding ++ ·) := by
    intro front first rest
    induction rest generalizing front first with
    | nil =>
        intro sealedFront sealedParts
        have whole := sealedFront.append (sealedParts first (by simp))
        have pieces := cellPieces_passes whole.passes []
        rw [List.append_nil, whole.returns] at pieces
        rw [Text.join_singleton, pieces]
        have last : cellPieces .plain 0 [] = [[]] := rfl
        rw [last, foldr_ontoFirst, List.append_nil, List.map_nil]
    | cons second rest ih =>
        intro sealedFront sealedParts
        have whole := sealedFront.append (sealedParts first (by simp))
        have shape : front ++ Text.join (',' :: padding) (first :: second :: rest) =
            (front ++ first) ++
              ',' :: (padding ++ Text.join (',' :: padding) (second :: rest)) := by
          simp only [Text.join_cons_cons, List.append_assoc, List.cons_append]
        have later := ih padding second sealedPadding fun part member =>
          sealedParts part (List.mem_cons_of_mem _ member)
        have cut : forall behind : Text,
            cellPieces .plain 0 (',' :: behind) = [] :: cellPieces .plain 0 behind :=
          fun _ => rfl
        rw [shape, cellPieces_passes whole.passes, whole.returns, cut, later, foldr_ontoFirst,
          List.append_nil, List.map_cons]
  simpa only [List.nil_append] using padded [] first rest (Sealed.nil _) sealedParts

/-! Whole rows. -/

/-- The cells of a row as they are spelled, with a comma and a space between neighbours. -/
def writtenRow (row : List Cell) : Text :=
  Text.join ", ".toList (row.map Cell.written)

theorem sealed_comma_space : Sealed isParen ", ".toList :=
  Sealed.of_forall (List.all_iff_forall_prop.mp (by decide))

theorem writtenRow_sealed (row : List Cell) : Sealed isParen (writtenRow row) := by
  apply Sealed.join sealed_comma_space
  intro part listed
  rcases List.mem_map.mp listed with ⟨cell, _, rfl⟩
  exact cell.written_sealed.mono fun _ => isParen_of_isCut

theorem mapM_ok {ε α β γ : Type} {f : β -> Except ε γ} {g : α -> β} {h : α -> γ} {items : List α}
    (each : forall item, item ∈ items -> f (g item) = .ok (h item)) :
    (items.map g).mapM f = .ok (items.map h) := by
  induction items with
  | nil => rfl
  | cons item rest ih =>
      have here := each item (by simp)
      have later := ih fun other member => each other (List.mem_cons_of_mem _ member)
      rw [List.map_cons, List.mapM_cons, here, later]
      rfl

theorem mapM_congr {ε α β : Type} {f g : α -> Except ε β} {items : List α}
    (same : forall item, item ∈ items -> f item = g item) : items.mapM f = items.mapM g := by
  induction items with
  | nil => rfl
  | cons item rest ih =>
      have later := ih fun other member => same other (List.mem_cons_of_mem _ member)
      rw [List.mapM_cons, List.mapM_cons, same item List.mem_cons_self, later]

/-- The cells of texts with a comma and a space between neighbours are read one by one. -/
theorem cells_join {parts : List Text} (filled : forall part, part ∈ parts -> part ≠ [])
    (sealedParts : forall part, part ∈ parts -> Sealed isCut part) :
    cells (Text.join ", ".toList parts) = parts.mapM Scalar.ofText := by
  cases parts with
  | nil => rfl
  | cons first rest =>
      have nonempty : (Text.join ", ".toList (first :: rest)).isEmpty = false :=
        List.isEmpty_eq_false_iff.mpr (Text.join_ne_nil (filled first List.mem_cons_self) rest)
      have pieces : cellTexts (Text.join ", ".toList (first :: rest)) =
          first :: rest.map ([' '] ++ ·) := by
        simp only [cellTexts, nonempty, Bool.false_eq_true, if_false]
        have sealedSpace : Sealed isCut [' '] :=
          Sealed.of_forall (List.all_iff_forall_prop.mp (by decide))
        exact cellPieces_join sealedSpace sealedParts
      -- the space behind a comma is trimmed with the cell
      have trimmed : Scalar.ofText ∘ ([' '] ++ ·) = Scalar.ofText := by
        funext t
        have same : Text.trim (' ' :: t) = Text.trim t := rfl
        simp only [Function.comp, Scalar.ofText, List.singleton_append, same]
      rw [cells, pieces, List.mapM_cons, List.mapM_cons, List.mapM_map, trimmed]

/-- A written row is read as its cells. -/
theorem cells_writtenRow (row : List Cell) : cells (writtenRow row) = .ok (row.map Cell.value) := by
  rw [writtenRow, cells_join]
  · exact mapM_ok fun cell _ => cell.ofText_written [] (by simp)
  · intro part listed
    rcases List.mem_map.mp listed with ⟨cell, _, rfl⟩
    exact cell.written_ne_nil
  · intro part listed
    rcases List.mem_map.mp listed with ⟨cell, _, rfl⟩
    exact cell.written_sealed

end Insert
end SchemaAtlas
