import SchemaAtlas.Proofs.Insert.Overlong
import SchemaAtlas.Proofs.Script.Gather
import SchemaAtlas.Proofs.Script.Written
import SchemaAtlas.Proofs.Statement.Kind
import SchemaAtlas.Proofs.Statement.Lines

namespace SchemaAtlas
namespace Script

/-!
Whether a script is read to its end.

A definition or an insertion that cannot be read gives a failed result, and the statements behind it
are read all the same.  One thing is not reported in this way: a whole number with too many digits
among the cells of an insertion stops the whole script, and nothing of it is reported.  The parser
that tells the kinds of statements is assumed not to give up.
-/

variable {parser : SqlParser}

/-- A statement that is not what its first words say: a definition or an
insertion without its form. -/
def Unreadable (parser : SqlParser) (options : ScriptOptions) (s : Statement) : Prop :=
  (kind? parser options s = some .createTable ∧ exists f, Table.ofText s.text 0 = .error f) ∨
    (kind? parser options s = some .insert ∧ Insert.ofText s.text = .ok none)

/-- A statement that stops the script: an insertion with a number that has too many digits. -/
def Stops (parser : SqlParser) (options : ScriptOptions) (s : Statement) : Prop :=
  kind? parser options s = some .insert ∧ Insert.Overlong s.text

/-! Statements that fail. -/

section

variable {options : ScriptOptions} {g g' : Gathered} {s : Statement}

theorem readable_of_table {e : Entity} {index : Int}
    (kind : kind? parser options s = some .createTable) (read : Table.ofText s.text index = .ok e) :
    ¬ Unreadable parser options s := by
  have atZero := Table.ofText_at s.text index 0
  rw [read] at atZero
  simp [Unreadable, kind, atZero, Except.map]

theorem readable_of_insert {i : Insert} (kind : kind? parser options s = some .insert)
    (read : Insert.ofText s.text = .ok (some i)) : ¬ Unreadable parser options s := by
  simp [Unreadable, kind, read]

theorem readable_of_kind {kind : StatementKind} (told : kind? parser options s = some kind)
    (noTable : kind ≠ .createTable) (noInsert : kind ≠ .insert) :
    ¬ Unreadable parser options s := by
  simp [Unreadable, told, noTable, noInsert]

/-- A step reports a failure exactly where its statement cannot be read. -/
theorem Step.failed_iff (step : Step parser options g s g') :
    exists r, g'.results = g.results ++ [r] ∧ r.index = s.index ∧
      (r.status = .failed ↔ Unreadable parser options s) := by
  cases step with
  | tableFailed kind read =>
      have atZero := Table.ofText_at s.text g.entities.length 0
      rw [read] at atZero
      exact ⟨_, rfl, rfl, iff_of_true rfl (.inl ⟨kind, _, atZero⟩)⟩
  | tableKnown kind read found =>
      exact ⟨_, rfl, rfl, iff_of_false nofun (readable_of_table kind read)⟩
  | tableAdded kind read fresh =>
      exact ⟨_, rfl, rfl, iff_of_false nofun (readable_of_table kind read)⟩
  | insertFailed kind read => exact ⟨_, rfl, rfl, iff_of_true rfl (.inr ⟨kind, read⟩)⟩
  | insertAdded kind read => exact ⟨_, rfl, rfl, iff_of_false nofun (readable_of_insert kind read)⟩
  | dropped kind =>
      exact ⟨_, rfl, rfl, iff_of_false nofun (readable_of_kind kind (by decide) (by decide))⟩
  | passed kind =>
      exact ⟨_, rfl, rfl, iff_of_false nofun (readable_of_kind kind (by decide) (by decide))⟩

end

/-- The result says that its statement failed exactly where the statement cannot be read. -/
def Reported (parser : SqlParser) (options : ScriptOptions) (s : Statement)
    (r : StatementResult) : Prop :=
  r.index = s.index ∧ (r.status = .failed ↔ Unreadable parser options s)

/-- A run reports on every statement. -/
theorem Run.reported {options : ScriptOptions} {g last : Gathered} {statements : List Statement}
    (run : Run parser options g statements last) :
    exists results, last.results = g.results ++ results ∧
      List.Forall₂ (Reported parser options) statements results := by
  induction run with
  | nil g => exact ⟨[], (List.append_nil _).symm, .nil⟩
  | @cons g next last s rest step later ih =>
      rcases step.failed_iff with ⟨r, result, reported⟩
      rcases ih with ⟨results, laterResults, there⟩
      refine ⟨r :: results, ?_, .cons reported there⟩
      rw [laterResults, result, List.append_assoc, List.singleton_append]

/-! Statements that stop the script. -/

section

variable {options : ScriptOptions} {limit : Int} {fault : Fault}

theorem exists_kind (total : parser.Total) (limited : options.headLimit = some limit)
    (s : Statement) : exists kind, kind? parser options s = some kind := by
  rcases StatementKind.exists_ofText total limit s.text with ⟨kind, told⟩
  refine ⟨kind, ?_⟩
  rw [kind?, textKind?, limited, Option.bind_some, told]
  rfl

theorem addInsert_eq_error_iff {g : Gathered} {s : Statement} :
    addInsert g s = .error fault ↔ fault = .tooManyDigits ∧ Insert.Overlong s.text := by
  unfold addInsert
  rw [← Insert.ofText_eq_error_iff (e := .tooManyDigits)]
  cases read : Insert.ofText s.text with
  | error e =>
      cases e
      simp [eq_comm]
  | ok found => cases found <;> simp

theorem addStatement_eq_error_iff (total : parser.Total) (limited : options.headLimit = some limit)
    {g : Gathered} {s : Statement} :
    addStatement parser options g s = .error fault ↔
      fault = .tooManyDigits ∧ Stops parser options s := by
  rcases exists_kind total limited s with ⟨kind, told⟩
  rw [addStatement_of_kind told, Stops, told]
  cases kind with
  | insert => simp [addOfKind, addInsert_eq_error_iff]
  | createTable => simp [addOfKind]
  | dropTable => simp [addOfKind]
  | other => simp [addOfKind]

/-- One such statement is enough, wherever it stands. -/
theorem foldlM_eq_error_iff (total : parser.Total) (limited : options.headLimit = some limit)
    {statements : List Statement} {g : Gathered} :
    statements.foldlM (addStatement parser options) g = .error fault ↔
      fault = .tooManyDigits ∧ exists s, s ∈ statements ∧ Stops parser options s := by
  -- what was gathered does not matter: whether a statement stops the script is told by its text
  induction statements generalizing g with
  | nil => simp [pure, Except.pure]
  | cons s rest ih =>
      rw [List.foldlM_cons]
      cases here : addStatement parser options g s with
      | error other =>
          rcases (addStatement_eq_error_iff total limited).mp here with ⟨rfl, stops⟩
          simp only [bind, Except.bind, Except.error.injEq, List.mem_cons, exists_eq_or_imp, stops,
            true_or, and_true]
          exact eq_comm
      | ok next =>
          have goes : ¬ Stops parser options s := by
            intro stops
            rw [(addStatement_eq_error_iff total limited).mpr ⟨rfl, stops⟩] at here
            cases here
          simp only [bind, Except.bind, ih, List.mem_cons, exists_eq_or_imp, goes, false_or]

end

theorem read_eq_error_iff (total : parser.Total) {options : ScriptOptions} {limit : Int}
    (limited : options.headLimit = some limit) (script : Text) (reverse : Option Bool)
    {fault : Fault} : read parser options script reverse = .error fault ↔
      fault = .tooManyDigits ∧ exists s, s ∈ Statement.split options.delimiter script ∧
        Stops parser options s := by
  rw [← foldlM_eq_error_iff total limited (g := Gathered.empty)]
  unfold read gather
  cases (Statement.split options.delimiter script).foldlM
      (addStatement parser options) Gathered.empty with
  | error other => simp [Except.map]
  | ok last => simp [Except.map]

/-- The outcome of a script where nothing is set and the parser never gives up.  Either one of
the statements inserts a number with too many digits, and then nothing is reported.  Or none
does, and then there is a report with one result for each statement, in order, of which those
fail that cannot be read. -/
theorem outcome_of_read (total : parser.Total) (script : Text) (reverse : Option Bool) :
    ScriptOptions.ofSettings [] = .ok .standard ∧
    (forall fault, read parser .standard script reverse = .error fault ↔
      fault = .tooManyDigits ∧ exists s, s ∈ Statement.split [';'] script ∧
        Stops parser .standard s) ∧
    ((exists report, read parser .standard script reverse = .ok report ∧
        List.Forall₂ (Reported parser .standard) (Statement.split [';'] script) report.results) ↔
      forall s, s ∈ Statement.split [';'] script -> ¬ Stops parser .standard s) := by
  have failing : forall fault, read parser .standard script reverse = .error fault ↔
      fault = .tooManyDigits ∧ exists s, s ∈ Statement.split [';'] script ∧
          Stops parser .standard s :=
    fun _ => read_eq_error_iff total rfl script reverse
  refine ⟨ScriptOptions.ofSettings_nil, failing, ?_, ?_⟩
  · rintro ⟨report, done, _⟩ s member stops
    rw [(failing .tooManyDigits).mpr ⟨rfl, s, member, stops⟩] at done
    cases done
  · intro none
    cases outcome : read parser .standard script reverse with
    | error fault =>
        rcases (failing fault).mp outcome with ⟨_, s, member, stops⟩
        exact absurd stops (none s member)
    | ok report =>
        rcases run_of_read outcome with ⟨last, run, rfl⟩
        rcases run.reported with ⟨results, all, reported⟩
        rw [Gathered.empty, List.nil_append] at all
        rw [← all] at reported
        exact ⟨_, rfl, reported⟩

/-- Two statements, of which the first inserts 4301 digits and the second defines a table. -/
def digitsThenDefinition : List Text :=
  [Insert.statementText "t".toList "a".toList (Insert.inParens (List.replicate 4301 '1')),
    "CREATE TABLE u (a INT)".toList]

/-- The definition is found behind the digits, and yet nothing is reported of it. -/
theorem read_digitsThenDefinition :
    Head.parser.Total ∧
      (Statement.split [';'] (Text.join ['\n'] (digitsThenDefinition.map (· ++ [';'])))).map
        Statement.text =
        digitsThenDefinition ∧
      read Head.parser .standard (Text.join ['\n'] (digitsThenDefinition.map (· ++ [';']))) none =
        .error .tooManyDigits := by
  have identifier : Name.IsIdentifier "t".toList :=
    Name.isIdentifier_of_checked (by decide) (by decide)
  have ones : forall c, c ∈ List.replicate 4301 '1' -> Text.isDecimalDigit c = true := by
    intro c member
    rw [List.eq_of_mem_replicate member]
    decide
  have alone : forall body, body ∈ digitsThenDefinition -> Statement.StandsAlone [';'] body := by
    intro body member
    rcases List.mem_pair.mp member with rfl | rfl
    · have unbroken := Insert.unbroken_inParens
        (Text.unbroken_of_forall ones (by decide) (by decide))
      exact Insert.standsAlone_statementText
        (Insert.unbroken_statementText (by decide) (by decide) unbroken)
          ⟨'(' :: List.replicate 4301 '1', rfl⟩
    · exact ⟨by decide, by decide, by decide, by decide, by decide, by decide, by decide⟩
  have texts := Statement.text_split_join alone
  have first : Insert.statementText "t".toList "a".toList
      (Insert.inParens (List.replicate 4301 '1')) ∈
      digitsThenDefinition := List.mem_cons_self
  rw [← texts] at first
  refine ⟨Head.parser_total, texts,
    ((outcome_of_read Head.parser_total _ none).2.1 .tooManyDigits).mpr ⟨rfl, ?_⟩⟩
  rcases List.mem_map.mp first with ⟨s, member, text⟩
  refine ⟨s, member, ?_, ?_⟩
  · change (StatementKind.ofText Head.parser 1024 s.text).toOption = _
    rw [text]
    exact congrArg Except.toOption
      (StatementKind.ofText_insert Head.parser_knowsInsertions (by decide) _)
  · rw [text]
    exact Insert.overlong_statementText identifier (by decide) ones
      (by rw [List.length_replicate]; decide)

end Script
end SchemaAtlas
