import SchemaAtlas.Proofs.Script.Rows
import SchemaAtlas.Proofs.Statement.Step

namespace SchemaAtlas

/-!
The books of a report.

A report has one result for each statement, in order, and each result says how its statement fared.
Whether a definition is the first one of its table is told by the statements before it alone, so the
fate of every definition can be read off the script.  The tables of a report are those of the
definitions that were in order, numbered one after another; errors belong to failed results and tell
the line of their statement; and the numbers in the statistics are those of what they count.
-/

/-- Each item has its position as its number. -/
def Numbered {α : Type} (number : α -> Int) (items : List α) : Prop :=
  forall (position : Nat) (item : α), items[position]? = some item -> number item = position

theorem Numbered.append {α : Type} {number : α -> Int} {items : List α}
    (numbered : Numbered number items) {item : α} (next : number item = items.length) :
    Numbered number (items ++ [item]) := by
  intro position other there
  rw [List.getElem?_append] at there
  split at there
  · exact numbered position other there
  · rename_i outside
    rcases List.getElem?_eq_some_iff.mp there with ⟨inside, equal⟩
    have first : position - items.length = 0 := Nat.lt_one_iff.mp inside
    simp only [first, List.getElem_cons_zero] at equal
    rw [← equal, next]
    omega

theorem Numbered.of_map_eq {α : Type} {number : α -> Int} {items others : List α}
    (numbered : Numbered number items) (same : others.map number = items.map number) :
    Numbered number others := by
  intro position item there
  have found : (items.map number)[position]? = some (number item) := by
    rw [← same, List.getElem?_map, there]
    rfl
  rw [List.getElem?_map] at found
  rcases Option.map_eq_some_iff.mp found with ⟨other, atOther, equal⟩
  rw [← equal]
  exact numbered position other atOther

namespace Statement

/-! Statements are numbered as they are found. -/

/-- The index of a statement as a number among others. -/
def number (s : Statement) : Int :=
  s.index

theorem numbered_made {found : List Statement} (numbered : Numbered number found)
    (body delimiter : Text) (line : Nat) :
    Numbered number (found ++ made body delimiter found.length line) := by
  rw [made]
  split
  · rwa [List.append_nil]
  · exact numbered.append rfl

/-- A line that ends a statement gives it the next number. -/
theorem Progress.numbered_step {p q : Progress} {line : Text} (numbered : Numbered number p.found)
    (reading : Reading p line q) : Numbered number q.found := by
  cases reading with
  | passed _ => exact numbered
  | redirected _ => exact numbered_made numbered _ _ _
  | joined _ _ => exact numbered
  | ended _ _ _ => exact numbered_made numbered _ _ _
  | discarded _ _ => exact numbered

theorem numbered_split (delimiter script : Text) : Numbered number (split delimiter script) := by
  have read : Numbered number (readLines delimiter script).found :=
    Progress.holds_foldl_readLine (P := fun p => Numbered number p.found)
      (fun _ _ there => nomatch there)
      fun _ _ _ _ => Progress.numbered_step
  rw [split, Progress.finish_eq]
  exact numbered_made read _ _ _

end Statement

namespace Script

variable {parser : SqlParser}

/-! What one result says of its statement. -/

def errorLine? (error : Keyed Value) : Option Value :=
  Keyed.get? "line" ((Keyed.get? "details" error).getD .null).entries

/-- A result that belongs to a statement.  There is an error exactly where the statement failed,
and it tells the line of the statement. -/
structure Recorded (parser : SqlParser) (options : ScriptOptions) (s : Statement)
    (r : StatementResult) : Prop where
  index : r.index = s.index
  kind : kind? parser options s = some r.kind
  failed_iff : r.status = .failed ↔ r.error.isSome = true
  line : forall error, r.error = some error -> errorLine? error = some (Value.ofNat s.line)

theorem recorded_failed {options : ScriptOptions} {s : Statement} {kind : StatementKind}
    (f : Failure) (told : kind? parser options s = some kind) :
    Recorded parser options s (failedResult s kind f) where
  index := rfl
  kind := told
  failed_iff := iff_of_true rfl rfl
  line error same := by
    cases same
    change Keyed.get? _ (Keyed.set _ (Value.ofNat s.line) f.details) = _
    rw [Keyed.get?_set, if_pos rfl]

theorem recorded_plain {options : ScriptOptions} {s : Statement} {kind : StatementKind}
    {status : ResultStatus} (table : Option Text) (rows : Nat)
    (told : kind? parser options s = some kind) (fine : status ≠ .failed) :
    Recorded parser options s (plainResult s kind status table rows) where
  index := rfl
  kind := told
  failed_iff := iff_of_false fine nofun
  line error same := by cases same

/-! The fate of a definition. -/

/-- The name of the table that a statement defines, in small letters, where it is a
definition that can be read. -/
def definedKey? (parser : SqlParser) (options : ScriptOptions) (s : Statement) : Option Text :=
  if kind? parser options s = some .createTable then
    (Table.ofText s.text 0).toOption.map Entity.key else none

/-- How a definition fares behind other statements: it fails where it cannot be read, it is in order
where it is the first one of its table, and else it is skipped. -/
inductive Fate (parser : SqlParser) (options : ScriptOptions) (earlier : List Statement)
    (s : Statement) : ResultStatus -> Prop where
  | rejected {f : Failure} (read : Table.ofText s.text 0 = .error f) :
      Fate parser options earlier s .failed
  | first {e : Entity} (read : Table.ofText s.text 0 = .ok e)
      (fresh : e.key ∉ earlier.filterMap (definedKey? parser options)) :
        Fate parser options earlier s .ok
  | repeated {e : Entity} (read : Table.ofText s.text 0 = .ok e)
      (known : e.key ∈ earlier.filterMap (definedKey? parser options)) :
        Fate parser options earlier s .skipped

/-- The tables that are there are those of the definitions among the statements. -/
def Knows (parser : SqlParser) (options : ScriptOptions) (entities : List Entity)
    (earlier : List Statement) : Prop :=
  forall key, key ∈ entities.map Entity.key ↔ key ∈ earlier.filterMap (definedKey? parser options)

theorem find?_eq_none_iff {entities : List Entity} {name : Text} :
    Entity.find? entities name = none ↔ Text.lower name ∉ entities.map Entity.key := by
  simp [Entity.find?]

theorem definedKey?_of_ok {options : ScriptOptions} {s : Statement} {e : Entity} {index : Int}
    (kind : kind? parser options s = some .createTable) (read : Table.ofText s.text index = .ok e) :
    definedKey? parser options s = some e.key := by
  rw [definedKey?, if_pos kind, Table.ofText_at s.text index 0, read]
  rfl

theorem definedKey?_of_kind {options : ScriptOptions} {s : Statement} {kind : StatementKind}
    (told : kind? parser options s = some kind) (other : kind ≠ .createTable) :
    definedKey? parser options s = none := by
  rw [definedKey?, told, if_neg]
  exact fun same => other (Option.some.inj same)

section

variable {options : ScriptOptions} {entities : List Entity} {earlier : List Statement}
  {s : Statement}

/-- A statement that defines no table, or one that is there, adds nothing. -/
theorem Knows.same (known : Knows parser options entities earlier)
    (old : forall key, definedKey? parser options s = some key -> key ∈ entities.map Entity.key) :
    Knows parser options entities (earlier ++ [s]) := by
  intro key
  rw [List.filterMap_append, List.mem_append, ← known key]
  constructor
  · exact Or.inl
  · rintro (here | new)
    · exact here
    · exact old key (by simpa using new)

theorem Knows.added (known : Knows parser options entities earlier) {e : Entity}
    (key : definedKey? parser options s = some e.key) :
    Knows parser options (entities ++ [e]) (earlier ++ [s]) := by
  intro other
  rw [List.map_append, List.filterMap_append, List.mem_append, List.mem_append, known other]
  simp [key]

end

/-! Steps and runs. -/

/-- A result that belongs to a statement behind others, and tells the fate of a definition. -/
structure Booked (parser : SqlParser) (options : ScriptOptions) (earlier : List Statement)
    (s : Statement) (r : StatementResult) : Prop extends Recorded parser options s r where
  fate : r.kind = .createTable -> Fate parser options earlier s r.status

theorem Step.booked {options : ScriptOptions} {g g' : Gathered} {s : Statement}
    {earlier : List Statement} (step : Step parser options g s g')
    (known : Knows parser options g.entities earlier) :
    exists r, g'.results = g.results ++ [r] ∧ Booked parser options earlier s r ∧
      Knows parser options g'.entities (earlier ++ [s]) := by
  have aside : forall {kind : StatementKind}, kind? parser options s = some kind ->
      kind ≠ .createTable ->
      Knows parser options g.entities (earlier ++ [s]) := by
    intro kind told other
    apply known.same
    intro key defined
    rw [definedKey?_of_kind told other] at defined
    cases defined
  have atZero := Table.ofText_at s.text g.entities.length 0
  cases step with
  | @tableFailed f kind read =>
      rw [read] at atZero
      refine ⟨_, rfl, ⟨recorded_failed f kind, fun _ => .rejected atZero⟩, known.same ?_⟩
      intro key defined
      rw [definedKey?, if_pos kind, atZero] at defined
      cases defined
  | @tableKnown e old kind read found =>
      rw [read] at atZero
      have listed : e.key ∈ g.entities.map Entity.key := by
        by_contra absent
        rw [find?_eq_none_iff.mpr absent] at found
        cases found
      refine ⟨_, rfl, ⟨recorded_plain _ _ kind (by decide),
        fun _ => .repeated atZero ((known _).mp listed)⟩, known.same ?_⟩
      intro key defined
      rw [definedKey?_of_ok kind read] at defined
      exact Option.some.inj defined ▸ listed
  | @tableAdded e kind read fresh =>
      rw [read] at atZero
      have absent := find?_eq_none_iff.mp fresh
      exact ⟨_, rfl, ⟨recorded_plain _ _ kind (by decide), fun _ => .first atZero fun listed =>
        absent ((known _).mpr listed)⟩, known.added (definedKey?_of_ok kind read)⟩
  | insertFailed kind read =>
      exact ⟨_, rfl, ⟨recorded_failed _ kind, nofun⟩, aside kind (by decide)⟩
  | insertAdded kind read =>
      exact ⟨_, rfl, ⟨recorded_plain _ _ kind (by decide), nofun⟩, aside kind (by decide)⟩
  | dropped kind =>
      exact ⟨_, rfl, ⟨recorded_plain _ _ kind (by decide), nofun⟩, aside kind (by decide)⟩
  | passed kind =>
      exact ⟨_, rfl, ⟨recorded_plain _ _ kind (by decide), nofun⟩, aside kind (by decide)⟩

/-- The results of a run belong to its statements, each behind the statements before it. -/
theorem Run.booked {options : ScriptOptions} {g last : Gathered}
    {statements earlier : List Statement} (run : Run parser options g statements last)
    (known : Knows parser options g.entities earlier) :
    exists results, last.results = g.results ++ results ∧ results.length = statements.length ∧
      forall (position : Nat) (s : Statement) (r : StatementResult),
        statements[position]? = some s ->
        results[position]? = some r ->
          Booked parser options (earlier ++ statements.take position) s r := by
  -- each statement that was read is one of those before the others
  induction run generalizing earlier with
  | nil g => exact ⟨[], (List.append_nil _).symm, rfl, by intro position s r there; cases there⟩
  | @cons g next last s rest step later ih =>
      rcases step.booked known with ⟨r, result, here, knownNext⟩
      rcases ih knownNext with ⟨results, laterResults, size, there⟩
      refine ⟨r :: results, ?_, congrArg Nat.succ size, ?_⟩
      · rw [laterResults, result, List.append_assoc, List.singleton_append]
      · intro position other otherResult atStatement atResult
        cases position with
        | zero =>
            cases atStatement
            cases atResult
            simpa only [List.take_zero, List.append_nil] using here
        | succ position =>
            simpa only [List.take_succ_cons, List.append_assoc, List.singleton_append] using
              there position other otherResult atStatement atResult

/-! The tables of a run. -/

/-- The table as its definition gives it, before its depth and its data are known. -/
def asDefined (e : Entity) : Entity :=
  { e with depth := 0, rows := [] }

/-- The table is the one that a statement defines, and the result names it. -/
def Defined (pair : Statement × StatementResult) (e : Entity) : Prop :=
  Table.ofText pair.1.text e.index = .ok (asDefined e) ∧ pair.2.table = some e.name

/-- The definitions that were in order, with their results. -/
def definitions (statements : List Statement) (results : List StatementResult) :
    List (Statement × StatementResult) :=
  (statements.zip results).filter fun pair => pair.2.isDefined

/-- Tables that are told apart by their names, whatever the case, and have their
positions as indices. -/
structure Catalogued (entities : List Entity) : Prop where
  distinct : (entities.map Entity.key).Nodup
  numbered : Numbered Entity.index entities

theorem defined_of_ofText {s : Statement} {r : StatementResult} {index : Int} {e : Entity}
    (read : Table.ofText s.text index = .ok e) (named : r.table = some e.name) :
    Defined (s, r) e := by
  have bare : asDefined e = e := by
    rw [asDefined, ← Table.depth_ofText read, ← Table.rows_ofText read]
  refine ⟨?_, named⟩
  rw [bare, Table.index_ofText read]
  exact read

theorem Catalogued.append {entities : List Entity} (catalogued : Catalogued entities) {e : Entity}
    (fresh : Entity.find? entities e.name = none) (next : e.index = entities.length) :
    Catalogued (entities ++ [e]) := by
  refine ⟨?_, catalogued.numbered.append next⟩
  rw [List.map_append]
  refine List.nodup_append.mpr ⟨catalogued.distinct, by simp, ?_⟩
  intro key member other isKey equal
  rw [List.map_singleton, List.mem_singleton] at isKey
  rw [equal, isKey] at member
  exact find?_eq_none_iff.mp fresh member

/-- A run adds the tables of the definitions that were in order. -/
theorem Run.catalogued {options : ScriptOptions} {g last : Gathered} {statements : List Statement}
    (run : Run parser options g statements last) (catalogued : Catalogued g.entities) :
    Catalogued last.entities ∧ exists results tables, last.results = g.results ++ results ∧
      last.entities = g.entities ++ tables ∧
        List.Forall₂ Defined (definitions statements results) tables := by
  induction run with
  | nil g => exact ⟨catalogued, [], [], (List.append_nil _).symm, (List.append_nil _).symm, .nil⟩
  | @cons g next last s rest step later ih =>
      rcases step.added with ⟨r, new, result, _, _, added, defines⟩
      have knownNext : Catalogued next.entities := by
        rw [added]
        cases defines with
        | nothing plain => simpa only [List.append_nil] using catalogued
        | table defined read named fresh => exact catalogued.append fresh (Table.index_ofText read)
      rcases ih knownNext with ⟨whole, results, tables, laterResults, laterAdded, there⟩
      refine ⟨whole, r :: results, new ++ tables, ?_, ?_, ?_⟩
      · rw [laterResults, result, List.append_assoc, List.singleton_append]
      · rw [laterAdded, added, List.append_assoc]
      · rw [definitions, List.zip_cons_cons]
        cases defines with
        | nothing plain =>
            rw [List.filter_cons_of_neg (by simp [plain])]
            exact there
        | table defined read named fresh =>
            rw [List.filter_cons_of_pos (by simp [defined])]
            exact .cons (defined_of_ofText read named) there

/-! The errors of a report. -/

theorem ne_nil_of_errorLine? {error : Keyed Value} {line : Value}
    (told : errorLine? error = some line) : error ≠ [] := by
  rintro rfl
  cases told

theorem map_errors {results : List StatementResult}
    (filled : forall r, r ∈ results -> r.status = .failed ->
      exists error, r.error = some error ∧ error ≠ []) :
    (((results.filter fun r => r.status == .failed).filterMap StatementResult.error).filter
        fun error => !error.isEmpty).map some =
      (results.filter fun r => r.status == .failed).map StatementResult.error := by
  induction results with
  | nil => rfl
  | cons r rest ih =>
      have later := ih fun other listed => filled other (List.mem_cons_of_mem _ listed)
      by_cases failed : r.status = .failed
      · rcases filled r (by simp) failed with ⟨error, here, nonempty⟩
        rw [List.filter_cons_of_pos (by simpa using failed), List.filterMap_cons_some here,
          List.filter_cons_of_pos (by simpa using nonempty), List.map_cons, List.map_cons, later,
            here]
      · rw [List.filter_cons_of_neg (by simpa using failed)]
        exact later

/-! The books as a whole. -/

/-- A report that keeps its books.  There is one result for each statement, with its position as
index; it tells the kind of its statement, the fate of a definition, and an error exactly where
the statement failed, with the line of the statement.  The tables differ in their names, have
their positions as indices, and are those of the definitions that were in order, one by one.  The
errors are those of the failed results, in order, and the statistics count statements, tables and
failures. -/
structure KeepsBooks (parser : SqlParser) (options : ScriptOptions) (script : Text)
    (report : ParseReport) : Prop where
  complete : report.results.length = (Statement.split options.delimiter script).length
  positions : forall (position : Nat) (r : StatementResult),
    report.results[position]? = some r -> r.index = position
  booked : forall (position : Nat) (s : Statement) (r : StatementResult),
    (Statement.split options.delimiter script)[position]? = some s ->
      report.results[position]? = some r ->
      Booked parser options ((Statement.split options.delimiter script).take position) s r
  catalogued : Catalogued report.entities
  defined : List.Forall₂ Defined
    (definitions (Statement.split options.delimiter script) report.results)
    report.entities
  errors : report.errors.map some = report.failed.map StatementResult.error
  statements : Keyed.get? "statements" report.stats.counts =
    some (Statement.split options.delimiter script).length
  tables : Keyed.get? "tables" report.stats.counts = some report.entities.length
  failures : Keyed.get? "failed" report.stats.counts = some report.failed.length

/-- Every report on a script keeps its books. -/
theorem keepsBooks_of_read {options : ScriptOptions} {script : Text} {reverse : Option Bool}
    {report : ParseReport} (done : read parser options script reverse = .ok report) :
    KeepsBooks parser options script report := by
  rcases run_of_read done with ⟨last, run, rfl⟩
  have nothingKnown : Knows parser options Gathered.empty.entities [] := fun _ => Iff.rfl
  have nothingThere : Catalogued Gathered.empty.entities :=
    ⟨List.nodup_nil, by intro position e there; cases there⟩
  rcases run.booked nothingKnown with ⟨results, resultsAre, size, booked⟩
  rcases run.catalogued nothingThere with
    ⟨catalogued, others, tables, othersAre, tablesAre, defined⟩
  have told : last.results = results := resultsAre
  have toldAgain : last.results = others := othersAre
  have allTables : last.entities = tables := tablesAre
  rw [← told] at size booked
  rw [← toldAgain, ← allTables] at defined
  simp only [List.nil_append] at booked
  have statementAt : forall (position : Nat) (r : StatementResult),
      last.results[position]? = some r ->
      exists s, (Statement.split options.delimiter script)[position]? = some s ∧
        Booked parser options ((Statement.split options.delimiter script).take position) s r := by
    intro position r there
    rcases List.getElem?_eq_some_iff.mp there with ⟨inside, _⟩
    have atStatement := List.getElem?_eq_getElem (size ▸ inside)
    exact ⟨_, atStatement, booked position _ r atStatement there⟩
  have numbered := Statement.numbered_split options.delimiter script
  refine
    { complete := size
      positions := ?_
      booked := booked
      catalogued := ⟨?_, catalogued.numbered.of_map_eq (map_reportOf _ (fun _ _ _ => rfl) _ _ _)⟩
      defined := ?_
      errors := map_errors ?_
      statements := congrArg some size
      tables := congrArg some ?_
      failures := rfl }
  · intro position r there
    rcases statementAt position r there with ⟨s, atStatement, here⟩
    exact here.index.trans (Int.ofNat.inj (numbered position s atStatement))
  · rw [map_reportOf _ (fun _ _ _ => rfl)]
    exact catalogued.distinct
  · -- whether a statement defines a table is seen of the table as it was defined
    apply (List.forall₂_map_right_iff (R := Defined) (f := asDefined)).mp
    rw [map_reportOf _ (fun _ _ _ => rfl)]
    exact (List.forall₂_map_right_iff (R := Defined) (f := asDefined)).mpr defined
  · intro r listed failed
    rcases List.mem_iff_getElem?.mp listed with ⟨position, there⟩
    rcases statementAt position r there with ⟨s, _, here⟩
    rcases Option.isSome_iff_exists.mp (here.failed_iff.mp failed) with ⟨error, found⟩
    exact ⟨error, found, ne_nil_of_errorLine? (here.line error found)⟩
  · have sizes := congrArg List.length
      (map_reportOf Entity.name (fun _ _ _ => rfl) options
        (reverse.getD options.depth.reverse) last)
    rw [List.length_map, List.length_map] at sizes
    exact sizes.symm

/-- Three definitions, of which the second cannot be read and the third repeats the
first, and an insertion. -/
def threeDefinitions : Text :=
  "CREATE TABLE t (a INT);\nCREATE TABLE u;\nCREATE TABLE T (b INT);\nINSERT INTO t VALUES (1);"

/-- The books of a script with a failure and a repetition. -/
theorem keepsBooks_threeDefinitions :
    exists report, read Head.parser .standard threeDefinitions none = .ok report ∧
      KeepsBooks Head.parser .standard threeDefinitions report ∧
      report.results.map StatementResult.status = [.ok, .failed, .skipped, .ok] ∧
      report.entities.map Entity.name = ["t".toList] := by
  have evaluated : (read Head.parser .standard threeDefinitions none).toOption.map
      (fun report => (report.results.map StatementResult.status, report.entities.map Entity.name)) =
        some ([.ok, .failed, .skipped, .ok], ["t".toList]) := by
    decide +kernel
  rcases exists_ok_of_map_toOption evaluated with ⟨report, done, seen⟩
  rcases Prod.mk.inj seen with ⟨statuses, names⟩
  exact ⟨report, done, keepsBooks_of_read done, statuses, names⟩

end Script
end SchemaAtlas
