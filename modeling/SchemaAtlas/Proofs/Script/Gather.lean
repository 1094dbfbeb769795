import Mathlib.Data.List.Forall2
import SchemaAtlas.Proofs.Table.Columns
import SchemaAtlas.Script.Read

namespace SchemaAtlas

/-!
What a run over the statements of a script can do.

One statement has seven outcomes, and each adds exactly one result.  A run that comes to its end is
a chain of such steps, so what holds of every step holds of the run: the tables gathered, the
insertions gathered, and the results can be told from the statements and their kinds.  Nothing is
assumed of the parser that tells the kinds.
-/

namespace ScriptOptions

/-- The options where no settings are given. -/
def standard : ScriptOptions where
  delimiter := [';']
  headLimit := some 1024
  pairPositional := true
  depth := ⟨NamedMatcher.suffix [], false, DepthOptions.defaults⟩
  settings := [("parser", .mapping defaults), ("depth", .mapping DepthOptions.defaults)]

theorem ofSettings_nil : ofSettings [] = .ok standard := by
  rfl

end ScriptOptions

namespace StatementResult

/-- The result of an insertion that was read. -/
def isInserted (r : StatementResult) : Bool :=
  r.kind == .insert && r.status == .ok

/-- The result of a definition that gave a new table. -/
def isDefined (r : StatementResult) : Bool :=
  r.kind == .createTable && r.status == .ok

end StatementResult

namespace Entity

theorem find?_append (entities more : List Entity) (name : Text) :
    find? (entities ++ more) name = (find? entities name).or (find? more name) :=
  List.find?_append

end Entity

namespace Script

theorem eq_ok_of_toOption {ε α : Type} {x : Except ε α} {a : α} (seen : x.toOption = some a) :
    x = .ok a := by
  cases x with
  | error e => cases seen
  | ok b => exact congrArg Except.ok (Option.some.inj seen)

/-- What is seen of a result that came out tells that one came out. -/
theorem exists_ok_of_map_toOption {ε α β : Type} {f : α -> β} {x : Except ε α} {b : β}
    (seen : x.toOption.map f = some b) : exists a, x = .ok a ∧ f a = b := by
  rcases Option.map_eq_some_iff.mp seen with ⟨a, here, same⟩
  exact ⟨a, eq_ok_of_toOption here, same⟩

variable {parser : SqlParser}

/-- The kind of a statement with a text, where the options tell how much of the text is looked at
and the parser does not give up on that. -/
def textKind? (parser : SqlParser) (options : ScriptOptions) (text : Text) : Option StatementKind :=
  options.headLimit.bind fun limit => (StatementKind.ofText parser limit text).toOption

def kind? (parser : SqlParser) (options : ScriptOptions) (s : Statement) : Option StatementKind :=
  textKind? parser options s.text

/-- One statement taken up, with the condition under which each outcome comes about. -/
inductive Step (parser : SqlParser) (options : ScriptOptions) (g : Gathered) (s : Statement) :
    Gathered -> Prop where
  | tableFailed {f : Failure} (kind : kind? parser options s = some .createTable)
      (read : Table.ofText s.text g.entities.length = .error f) :
      Step parser options g s { g with results := g.results ++ [failedResult s .createTable f] }
  | tableKnown {e known : Entity} (kind : kind? parser options s = some .createTable)
      (read : Table.ofText s.text g.entities.length = .ok e)
      (found : Entity.find? g.entities e.name = some known) :
      Step parser options g s
        { g with results := g.results ++ [plainResult s .createTable .skipped (some e.name) 0] }
  | tableAdded {e : Entity} (kind : kind? parser options s = some .createTable)
      (read : Table.ofText s.text g.entities.length = .ok e)
      (fresh : Entity.find? g.entities e.name = none) :
      Step parser options g s
        { g with
          entities := g.entities ++ [e]
          results := g.results ++ [plainResult s .createTable .ok (some e.name) 0] }
  | insertFailed (kind : kind? parser options s = some .insert)
      (read : Insert.ofText s.text = .ok none) :
      Step parser options g s { g with results :=
        g.results ++ [failedResult s .insert (insertFailure s.text)] }
  | insertAdded {i : Insert} (kind : kind? parser options s = some .insert)
      (read : Insert.ofText s.text = .ok (some i)) :
      Step parser options g s
        { g with
          inserts := g.inserts ++ [i]
          results := g.results ++ [plainResult s .insert .ok (some i.table) i.values.length] }
  | dropped (kind : kind? parser options s = some .dropTable) :
      Step parser options g s
        { g with
          results := g.results ++ [plainResult s .dropTable .skipped (droppedTable? s.text) 0] }
  | passed (kind : kind? parser options s = some .other) :
      Step parser options g s { g with results :=
        g.results ++ [plainResult s .other .skipped none 0] }

theorem step_addTable {options : ScriptOptions} (g : Gathered) {s : Statement}
    (kind : kind? parser options s = some .createTable) :
    Step parser options g s (addTable g s) := by
  unfold addTable
  cases read : Table.ofText s.text g.entities.length with
  | error f => exact Step.tableFailed kind read
  | ok e =>
      cases found : Entity.find? g.entities e.name with
      | some known => simpa only [found] using Step.tableKnown kind read found
      | none => simpa only [found] using Step.tableAdded kind read found

theorem step_addInsert {options : ScriptOptions} {g g' : Gathered} {s : Statement}
    (kind : kind? parser options s = some .insert) (added : addInsert g s = .ok g') :
    Step parser options g s g' := by
  unfold addInsert at added
  cases read : Insert.ofText s.text with
  | error e => cases e; simp only [read] at added; cases added
  | ok found =>
      cases found with
      | none =>
          simp only [read, Except.ok.injEq] at added
          exact added ▸ Step.insertFailed kind read
      | some i =>
          simp only [read, Except.ok.injEq] at added
          exact added ▸ Step.insertAdded kind read

theorem step_of_kind {options : ScriptOptions} {g g' : Gathered} {s : Statement}
    {kind : StatementKind} (told : kind? parser options s = some kind)
    (added : addOfKind g s kind = .ok g') : Step parser options g s g' := by
  cases kind with
  | createTable => exact Except.ok.inj added ▸ step_addTable g told
  | insert => exact step_addInsert told added
  | dropTable => exact Except.ok.inj added ▸ Step.dropped told
  | other => exact Except.ok.inj added ▸ Step.passed told

/-- What the reader does with one statement goes by its kind. -/
theorem addStatement_of_kind {options : ScriptOptions} {g : Gathered} {s : Statement}
    {kind : StatementKind} (told : kind? parser options s = some kind) :
    addStatement parser options g s = addOfKind g s kind := by
  rcases Option.bind_eq_some_iff.mp told with ⟨limit, limited, here⟩
  simp only [addStatement, limited, eq_ok_of_toOption here]

/-- A statement whose kind is not told is not taken up. -/
theorem exists_kind_of_addStatement {options : ScriptOptions} {g g' : Gathered} {s : Statement}
    (added : addStatement parser options g s = .ok g') :
    exists kind, kind? parser options s = some kind ∧ addOfKind g s kind = .ok g' := by
  unfold addStatement at added
  unfold kind? textKind?
  cases limited : options.headLimit with
  | none => rw [limited] at added; cases added
  | some limit =>
      cases told : StatementKind.ofText parser limit s.text with
      | error message => simp only [limited, told] at added; cases added
      | ok kind =>
          simp only [limited, told] at added
          exact ⟨kind, by rw [Option.bind_some, told]; rfl, added⟩

/-- The steps are exactly what the reader does with one statement. -/
theorem addStatement_eq_ok_iff {options : ScriptOptions} {g g' : Gathered} {s : Statement} :
    addStatement parser options g s = .ok g' ↔ Step parser options g s g' := by
  constructor
  · intro added
    rcases exists_kind_of_addStatement added with ⟨kind, told, here⟩
    exact step_of_kind told here
  · intro step
    cases step with
    | tableFailed kind read => simp only [addStatement_of_kind kind, addOfKind, addTable, read]
    | tableKnown kind read found =>
        simp only [addStatement_of_kind kind, addOfKind, addTable, read, found]
    | tableAdded kind read fresh =>
        simp only [addStatement_of_kind kind, addOfKind, addTable, read, fresh]
    | insertFailed kind read => simp only [addStatement_of_kind kind, addOfKind, addInsert, read]
    | insertAdded kind read => simp only [addStatement_of_kind kind, addOfKind, addInsert, read]
    | dropped kind => rw [addStatement_of_kind kind, addOfKind]
    | passed kind => rw [addStatement_of_kind kind, addOfKind]

/-- A run over some statements, one after another. -/
inductive Run (parser : SqlParser) (options : ScriptOptions) :
    Gathered -> List Statement -> Gathered -> Prop where
  | nil (g : Gathered) : Run parser options g [] g
  | cons {g next last : Gathered} {s : Statement} {rest : List Statement}
      (step : Step parser options g s next)
      (later : Run parser options next rest last) : Run parser options g (s :: rest) last

theorem foldlM_eq_ok_iff {options : ScriptOptions} {statements : List Statement}
    {g last : Gathered} :
    statements.foldlM (addStatement parser options) g = .ok last ↔
      Run parser options g statements last := by
  induction statements generalizing g with
  | nil =>
      constructor
      · intro same
        cases same
        exact Run.nil _
      · intro run
        cases run
        rfl
  | cons s rest ih =>
      rw [List.foldlM_cons]
      constructor
      · intro folded
        cases added : addStatement parser options g s with
        | error e => simp only [added, bind, Except.bind] at folded; cases folded
        | ok next =>
            simp only [added, bind, Except.bind] at folded
            exact Run.cons (addStatement_eq_ok_iff.mp added) (ih.mp folded)
      · intro run
        cases run with
        | cons step later =>
            rw [addStatement_eq_ok_iff.mpr step]
            exact ih.mpr later

/-! Results of steps and runs. -/

/-- The insertion of a statement whose result says that it was read. -/
def insertion? (s : Statement) (r : StatementResult) : Option Insert :=
  if r.isInserted then (Insert.ofText s.text).toOption.join else none

/-- A result that stands for a statement.  It tells of an insertion exactly where there is one, with
its table and the number of its rows. -/
structure Answers (parser : SqlParser) (options : ScriptOptions) (s : Statement)
    (r : StatementResult) : Prop where
  index : r.index = s.index
  inserted : r.isInserted = true ↔
    kind? parser options s = some .insert ∧ exists i, Insert.ofText s.text = .ok (some i)
  table : forall i, insertion? s r = some i -> r.table = some i.table
  rows : forall i, insertion? s r = some i -> r.rows = i.values.length

/-- The tables that a statement adds to those that are there: the one that it defines, where its
result says so, and else none. -/
inductive Defines (known : List Entity) (s : Statement) (r : StatementResult) :
    List Entity -> Prop where
  | nothing (plain : r.isDefined = false) : Defines known s r []
  | table {e : Entity} (defined : r.isDefined = true)
      (read : Table.ofText s.text known.length = .ok e)
      (named : r.table = some e.name) (fresh : Entity.find? known e.name = none) :
        Defines known s r [e]

theorem insertion?_eq_none {s : Statement} {r : StatementResult} (plain : r.isInserted = false) :
    insertion? s r = none := by
  simp only [insertion?, plain, Bool.false_eq_true, if_false]

theorem insertion?_eq_some {s : Statement} {r : StatementResult} {i : Insert}
    (inserted : r.isInserted = true) (read : Insert.ofText s.text = .ok (some i)) :
    insertion? s r = some i := by
  simp only [insertion?, inserted, if_true, read]
  rfl

theorem answers_of_plain {options : ScriptOptions} {s : Statement} {r : StatementResult}
    (index : r.index = s.index) (plain : r.isInserted = false)
    (none : kind? parser options s = some .insert -> Insert.ofText s.text = .ok none) :
    Answers parser options s r where
  index := index
  inserted := by
    constructor
    · intro inserted
      rw [plain] at inserted
      cases inserted
    · rintro ⟨kind, i, read⟩
      rw [none kind] at read
      cases read
  table i found := by rw [insertion?_eq_none plain] at found; cases found
  rows i found := by rw [insertion?_eq_none plain] at found; cases found

theorem answers_of_inserted {options : ScriptOptions} {s : Statement} {r : StatementResult}
    {i : Insert} (index : r.index = s.index) (inserted : r.isInserted = true)
    (kind : kind? parser options s = some .insert) (read : Insert.ofText s.text = .ok (some i))
    (table : r.table = some i.table) (rows : r.rows = i.values.length) :
    Answers parser options s r where
  index := index
  inserted := ⟨fun _ => ⟨kind, i, read⟩, fun _ => inserted⟩
  table found same := by
    cases (insertion?_eq_some inserted read).symm.trans same
    exact table
  rows found same := by
    cases (insertion?_eq_some inserted read).symm.trans same
    exact rows

/-- A step adds one result, the insertion that it tells of, and the table that it tells of. -/
theorem Step.added {options : ScriptOptions} {g g' : Gathered} {s : Statement}
    (step : Step parser options g s g') :
    exists r tables, g'.results = g.results ++ [r] ∧ Answers parser options s r ∧
      g'.inserts = g.inserts ++ (insertion? s r).toList ∧
      g'.entities = g.entities ++ tables ∧ Defines g.entities s r tables := by
  have other : forall {kind : StatementKind}, kind ≠ .insert ->
      kind? parser options s = some kind ->
      kind? parser options s = some .insert -> Insert.ofText s.text = .ok none := by
    intro kind different told insert
    exact absurd (Option.some.inj (told.symm.trans insert)) different
  have noTable : g.entities = g.entities ++ [] := (List.append_nil _).symm
  -- apart from insertions and new tables, a statement leaves nothing but its result
  have passing : forall {kind : StatementKind} (r : StatementResult), kind ≠ .insert ->
      kind? parser options s = some kind -> r.index = s.index -> r.isInserted = false ->
      r.isDefined = false ->
      exists r' tables, g.results ++ [r] = g.results ++ [r'] ∧ Answers parser options s r' ∧
        g.inserts = g.inserts ++ (insertion? s r').toList ∧
        g.entities = g.entities ++ tables ∧ Defines g.entities s r' tables := by
    intro kind r different told index unread undefined
    have noInsert : g.inserts = g.inserts ++ (insertion? s r).toList := by
      rw [insertion?_eq_none unread, Option.toList_none, List.append_nil]
    exact ⟨r, [], rfl, answers_of_plain index unread (other different told), noInsert, noTable,
      .nothing undefined⟩
  cases step with
  | tableFailed kind read => exact passing _ (by decide) kind rfl rfl rfl
  | tableKnown kind read found => exact passing _ (by decide) kind rfl rfl rfl
  | tableAdded kind read fresh =>
      exact ⟨_, _, rfl, answers_of_plain rfl rfl (other (by decide) kind),
        (List.append_nil _).symm, rfl, .table rfl read rfl fresh⟩
  | insertFailed kind read =>
      exact ⟨_, [], rfl, answers_of_plain rfl rfl fun _ => read, (List.append_nil _).symm, noTable,
        .nothing rfl⟩
  | @insertAdded i kind read =>
      have told : insertion? s (plainResult s .insert .ok (some i.table) i.values.length) =
          some i :=
        insertion?_eq_some rfl read
      refine ⟨_, [], rfl, answers_of_inserted rfl rfl kind read rfl rfl, ?_, noTable, .nothing rfl⟩
      rw [told]
      rfl
  | dropped kind => exact passing _ (by decide) kind rfl rfl rfl
  | passed kind => exact passing _ (by decide) kind rfl rfl rfl

/-- What statements and their results give together, the first ones before the others. -/
theorem filterMap_zip_cons {α β γ : Type} (f : α -> β -> Option γ) (a : α) (b : β) (as : List α)
    (bs : List β) : (((a :: as).zip (b :: bs)).filterMap fun pair => f pair.1 pair.2) =
      (f a b).toList ++ (as.zip bs).filterMap fun pair => f pair.1 pair.2 := by
  rw [List.zip_cons_cons, List.filterMap_cons]
  cases f a b with
  | none => rfl
  | some c => rfl

/-- The insertions that statements and their results tell of. -/
def insertions (statements : List Statement) (results : List StatementResult) : List Insert :=
  (statements.zip results).filterMap fun pair => insertion? pair.1 pair.2

theorem insertions_cons (s : Statement) (r : StatementResult) (statements : List Statement)
    (results : List StatementResult) :
    insertions (s :: statements) (r :: results) = (insertion? s r).toList ++
      insertions statements results :=
  filterMap_zip_cons insertion? s r statements results

/-- A run adds one result for each statement and the insertions that they tell of. -/
theorem Run.added {options : ScriptOptions} {g last : Gathered} {statements : List Statement}
    (run : Run parser options g statements last) :
    exists results, last.results = g.results ++ results ∧
      List.Forall₂ (Answers parser options) statements results ∧
      last.inserts = g.inserts ++ insertions statements results := by
  induction run with
  | nil g => exact ⟨[], (List.append_nil _).symm, .nil, (List.append_nil _).symm⟩
  | @cons g next last s rest step later ih =>
      rcases step.added with ⟨r, _, result, answers, insert, _, _⟩
      rcases ih with ⟨results, laterResults, laterAnswers, laterInserts⟩
      refine ⟨r :: results, ?_, .cons answers laterAnswers, ?_⟩
      · rw [laterResults, result, List.append_assoc, List.singleton_append]
      · rw [laterInserts, insert, insertions_cons, List.append_assoc]

/-- A run adds tables behind those that are there, and they have no data. -/
theorem Run.tables {options : ScriptOptions} {g last : Gathered} {statements : List Statement}
    (run : Run parser options g statements last) :
    exists tables, last.entities = g.entities ++ tables ∧ forall e, e ∈ tables -> e.rows = [] := by
  induction run with
  | nil g => exact ⟨[], (List.append_nil _).symm, by simp⟩
  | @cons g next last s rest step later ih =>
      rcases step.added with ⟨_, new, _, _, _, added, defines⟩
      rcases ih with ⟨tables, laterAdded, bare⟩
      refine ⟨new ++ tables, by rw [laterAdded, added, List.append_assoc], ?_⟩
      intro e member
      rcases List.mem_append.mp member with here | there
      · cases defines with
        | nothing plain => cases here
        | table defined read named fresh =>
            exact List.mem_singleton.mp here ▸ Table.rows_ofText read
      · exact bare e there

/-- What a whole run gives: a result for each statement, the insertions that the results tell of,
and tables without data. -/
theorem Run.whole {options : ScriptOptions} {last : Gathered} {statements : List Statement}
    (run : Run parser options Gathered.empty statements last) :
    List.Forall₂ (Answers parser options) statements last.results ∧
      last.inserts = insertions statements last.results ∧
        forall e, e ∈ last.entities -> e.rows = [] := by
  rcases run.added with ⟨results, resultsAre, answered, insertsAre⟩
  rcases run.tables with ⟨tables, tablesAre, bare⟩
  have resultsEq : last.results = results := resultsAre
  have tablesEq : last.entities = tables := tablesAre
  rw [resultsEq, tablesEq]
  exact ⟨answered, insertsAre, bare⟩

/-- A table that a run defines is known by its name from then on. -/
theorem Run.defined {options : ScriptOptions} {g last : Gathered} {statements : List Statement}
    (run : Run parser options g statements last) {results : List StatementResult}
    (told : last.results = g.results ++ results) {s : Statement} {r : StatementResult}
    (member : (s, r) ∈ statements.zip results) (defined : r.isDefined = true) :
    exists e index, Table.ofText s.text index = .ok e ∧ r.table = some e.name ∧
      forall name, Text.lower name = Text.lower e.name ->
        Entity.find? last.entities name = some e := by
  induction run generalizing results with
  | nil g => simp at member
  | @cons g next last first rest step later ih =>
      rcases step.added with ⟨head, new, result, _, _, added, defines⟩
      rcases later.added with ⟨tail, laterTold, _, _⟩
      have split : results = head :: tail := by
        rw [laterTold, result, List.append_assoc, List.singleton_append] at told
        exact (List.append_cancel_left told).symm
      rw [split, List.zip_cons_cons] at member
      rcases List.mem_cons.mp member with here | there
      · cases here
        rcases later.tables with ⟨tables, laterAdded, _⟩
        cases defines with
        | nothing plain => rw [plain] at defined; cases defined
        | @table e defined read named fresh =>
            refine ⟨e, _, read, named, ?_⟩
            intro name same
            have unknown : Entity.find? g.entities name = none := by
              rw [← fresh]
              simp only [Entity.find?, same]
            have found : Entity.find? [e] name = some e := by
              simp [Entity.find?, Entity.key, same]
            rw [laterAdded, added, Entity.find?_append, Entity.find?_append, unknown, found]
            rfl
      · exact ih laterTold there

/-- A script is read to its end exactly where its statements make a run. -/
theorem gather_eq_ok_iff {options : ScriptOptions} {script : Text} {last : Gathered} :
    gather parser options script = .ok last ↔
      Run parser options Gathered.empty (Statement.split options.delimiter script) last :=
  foldlM_eq_ok_iff

/-- A report is one on the end of a run. -/
theorem run_of_read {options : ScriptOptions} {script : Text} {reverse : Option Bool}
    {report : ParseReport} (done : read parser options script reverse = .ok report) :
    exists last, Run parser options Gathered.empty (Statement.split options.delimiter script) last ∧
      report = reportOf options (reverse.getD options.depth.reverse) last := by
  unfold read at done
  cases gathered : gather parser options script with
  | error fault => rw [gathered] at done; cases done
  | ok last =>
      rw [gathered] at done
      cases done
      exact ⟨last, gather_eq_ok_iff.mp gathered, rfl⟩

end Script
end SchemaAtlas
