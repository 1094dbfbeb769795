import SchemaAtlas.Proofs.Insert.QuotedColumns
import SchemaAtlas.Proofs.Settings.Dialect
import SchemaAtlas.Proofs.Settings.Overlay
import SchemaAtlas.Settings.Load

namespace SchemaAtlas
namespace Settings

open Value

/-!
Settings built from overrides.

Settings are accepted just if every part of the program can use them.  Those that are accepted hold
the overrides over the defaults, and they are built from themselves as well.  Overrides that are not
accepted are refused with a failure that reports can show, with one exception: a dialect that is or
holds an overlong number stops the check itself, because the check begins by writing the dialect
down.

All this is said of the values of this library: mappings have texts as keys, and a dialect is
written down however deeply it is nested.  A program that bounds the depth of its recursion stops on
a dialect nested beyond that bound, so that nothing is said here of such values.
-/

/-- Settings that every part of the program can use: the sections are mappings, the dialect is
one in which definitions can be written, and the delimiter is a text that is not blank. -/
structure Usable (settings : Keyed Value) : Prop where
  sections : forall name, name ∈ Keyed.names defaults ->
    exists entries, Keyed.get? name settings = some (.mapping entries)
  dialect : exists v d, (mapping settings).at? ["converter", "dialect"] = some v ∧
    Dialect.ofValue v = .ok d
  delimiter : exists t, (mapping settings).at? ["parser", "delimiter"] = some (.text t) ∧
    Text.isBlankText t = false

/-- Settings hold overrides over the defaults: at the end of every path there is what overrides
it, or else what is there by default. -/
structure Holds (overrides settings : Keyed Value) : Prop where
  overridden : forall path v, (mapping overrides).at? path = some v -> v.isMapping = false ->
    (mapping settings).at? path = some v
  mappings : forall path v, (mapping overrides).at? path = some v -> v.isMapping = true ->
    exists w, (mapping settings).at? path = some w ∧ w.isMapping = true
  untouched : forall path, (mapping overrides).at? path = none ->
    (forall front v, front <+: path -> (mapping overrides).at? front = some v ->
      v.isMapping = true) ->
    (mapping settings).at? path = (mapping defaults).at? path

/-- Overrides that are checked as far as their dialect, which is or holds an overlong number. -/
structure HaveOverlongDialect (overrides : Keyed Value) : Prop where
  sections : forall name v, name ∈ Keyed.names defaults -> Keyed.get? name overrides = some v ->
    v.isMapping = true
  dialect : exists v, (mapping overrides).at? ["converter", "dialect"] = some v ∧
    v.isOverlong = true

/-! The check. -/

section
variable (settings : Keyed Value)

theorem at?_pair (name key : Text) :
    (mapping settings).at? [name, key] = (sectionOf settings name).get? key := by
  have found : (mapping settings).at? [name, key] = (Keyed.get? name settings).bind
    (at? [key]) := rfl
  rw [found, sectionOf]
  cases Keyed.get? name settings with
  | none => rfl
  | some v => exact Option.bind_fun_some (v.get? key)

theorem isMapping_sectionOf_iff (name : Text) :
    (sectionOf settings name).isMapping = true ↔
      exists entries, Keyed.get? name settings = some (.mapping entries) := by
  rw [sectionOf]
  cases Keyed.get? name settings with
  | none =>
      constructor
      · intro isMapping
        cases isMapping
      · rintro ⟨entries, ⟨⟩⟩
  | some v =>
      constructor
      · intro isMapping
        obtain ⟨entries, rfl⟩ := exists_of_isMapping isMapping
        exact ⟨entries, rfl⟩
      · rintro ⟨entries, ⟨⟩⟩
        rfl

theorem badSection?_eq_none_iff :
    badSection? settings = none ↔ forall name, name ∈ Keyed.names defaults ->
      (sectionOf settings name).isMapping = true := by
  simp only [badSection?, List.find?_eq_none, Bool.not_eq_true', Bool.not_eq_false]

theorem isNone_dialectName_iff :
    (Keyed.get? (dialectName settings) Dialect.aliases).isNone = false ↔
      exists v d, (mapping settings).at? ["converter", "dialect"] = some v ∧
        Dialect.ofValue v = .ok d := by
  rw [Option.isNone_eq_false_iff, dialectName, Dialect.isSome_get?_aliases_display_iff, dialectOf,
    getD, at?_pair]
  cases (sectionOf settings "converter").get? "dialect" with
  | none =>
      constructor
      · rintro ⟨d, named⟩
        cases named
      · rintro ⟨v, d, ⟨⟩, _⟩
  | some v => simp

theorem delimiterIsUsable_iff :
    delimiterIsUsable settings = true ↔
      exists t, (mapping settings).at? ["parser", "delimiter"] = some (.text t) ∧
        Text.isBlankText t = false := by
  rw [delimiterIsUsable, getD, at?_pair]
  cases (sectionOf settings "parser").get? "delimiter" with
  | none => simp
  | some v => cases v <;> simp

/-- The three checks ask for what the parts of the program need. -/
theorem usable_iff :
    Usable settings ↔
      badSection? settings = none ∧
        (Keyed.get? (dialectName settings) Dialect.aliases).isNone = false ∧
        delimiterIsUsable settings = true := by
  simp only [badSection?_eq_none_iff, isMapping_sectionOf_iff, isNone_dialectName_iff,
    delimiterIsUsable_iff]
  exact ⟨fun usable => ⟨usable.sections, usable.dialect, usable.delimiter⟩,
    fun ⟨sections, dialect, delimiter⟩ => ⟨sections, dialect, delimiter⟩⟩

end

theorem Usable.isOverlong_dialectOf {settings : Keyed Value} (usable : Usable settings) :
    (dialectOf settings).isOverlong = false := by
  obtain ⟨v, d, found, named⟩ := usable.dialect
  obtain ⟨t, rfl, _⟩ := Dialect.ofValue_eq_ok_iff.mp named
  rw [at?_pair] at found
  rw [dialectOf, getD, found]
  rfl

/-- Accepted are the settings that can be used, and they are kept as they are. -/
theorem checked_eq_ok_iff {settings kept : Keyed Value} :
    checked settings = .ok kept ↔ kept = settings ∧ Usable settings := by
  cases bad : badSection? settings with
  | some name => simp [checked, usable_iff, bad]
  | none =>
      cases overlong : (dialectOf settings).isOverlong with
      | true =>
          -- an overlong dialect is no text, and only a text names a dialect
          have useless : ¬ Usable settings :=
            fun usable => nomatch overlong.symm.trans usable.isOverlong_dialectOf
          simp [checked, bad, overlong, useless]
      | false =>
          cases unknown : (Keyed.get? (dialectName settings) Dialect.aliases).isNone <;>
            cases solid : delimiterIsUsable settings <;>
            simp [checked, usable_iff, bad, overlong, unknown, solid, eq_comm]

theorem checked_eq_overlongDialect_iff (settings : Keyed Value) :
    checked settings = .error .overlongDialect ↔
      (forall name, name ∈ Keyed.names defaults -> (sectionOf settings name).isMapping = true) ∧
        (dialectOf settings).isOverlong = true := by
  rw [← badSection?_eq_none_iff]
  cases bad : badSection? settings with
  | some name => simp [checked, bad]
  | none =>
      cases overlong : (dialectOf settings).isOverlong with
      | true => simp [checked, bad, overlong]
      | false =>
          cases unknown : (Keyed.get? (dialectName settings) Dialect.aliases).isNone <;>
            cases solid : delimiterIsUsable settings <;>
            simp [checked, bad, overlong, unknown, solid]

/-! The settings with overrides. -/

theorem defaults_namesOnce : (mapping defaults).namesOnce = true := by
  decide

theorem buildOrStop_eq_ok_iff {overrides settings : Keyed Value} :
    buildOrStop overrides = .ok settings ↔
      settings = overlay defaults overrides ∧ Usable (overlay defaults overrides) := by
  rw [← checked_eq_ok_iff, buildOrStop, build]
  cases checked (overlay defaults overrides) with
  | ok kept => simp
  | error e => simp

theorem buildOrStop_eq_tooManyDigits_iff {overrides : Keyed Value} :
    buildOrStop overrides = .error .tooManyDigits ↔
      checked (overlay defaults overrides) = .error .overlongDialect := by
  rw [buildOrStop, build]
  cases checked (overlay defaults overrides) with
  | ok kept => simp
  | error e => cases e <;> simp [SettingsError.fault]

/-- Whatever else stops the check is a failure of the settings. -/
theorem failure_of_buildOrStop {overrides : Keyed Value} {fault : Fault}
    (stopped : buildOrStop overrides = .error fault) (writable : fault ≠ .tooManyDigits) :
    exists f, fault = .failure f ∧ f.kind = .settings := by
  rw [buildOrStop] at stopped
  split at stopped
  · cases stopped
  · rename_i e _
    cases stopped
    cases e with
    | overlongDialect => exact absurd rfl writable
    | sectionNotMapping name => exact ⟨_, rfl, rfl⟩
    | unknownDialect name => exact ⟨_, rfl, rfl⟩
    | blankDelimiter => exact ⟨_, rfl, rfl⟩

section
variable {overrides : Keyed Value} (once : (mapping overrides).namesOnce = true)
include once

/-- The defaults with overrides, built once more, are what they are. -/
theorem overlay_overlay :
    overlay defaults (overlay defaults overrides) = overlay defaults overrides := by
  have onceBase : forall b, some (mapping defaults) = some b -> b.namesOnce = true := by
    rintro _ ⟨⟩
    exact defaults_namesOnce
  exact Value.mapping.inj (overlayValue_overlayValue onceBase once)

theorem holds_overlay : Holds overrides (overlay defaults overrides) where
  overridden := by
    intro path v found leaf
    have there := at?_overlayValue_of_some (some (mapping defaults)) once found
    rwa [overlayValue_of_leaf _ leaf] at there
  mappings := by
    intro path v found isMapping
    exact ⟨_, at?_overlayValue_of_some (some (mapping defaults)) once found,
      (isMapping_overlayValue _ v).trans isMapping⟩
  untouched := fun _ absent mappings =>
    at?_overlayValue_of_none (some (mapping defaults)) once absent mappings

/-- A section stays a mapping unless something else overrides it. -/
theorem isMapping_sectionOf_overlay_iff {name : Text} (listed : name ∈ Keyed.names defaults) :
    (sectionOf (overlay defaults overrides) name).isMapping = true ↔
      forall v, Keyed.get? name overrides = some v -> v.isMapping = true := by
  have byDefault : forall name, name ∈ Keyed.names defaults ->
    (sectionOf defaults name).isMapping = true := by decide
  rw [sectionOf, get?_overlay (nodup_of_namesOnce once)]
  cases Keyed.get? name overrides with
  | none => simpa [sectionOf] using byDefault name listed
  | some v => simp [isMapping_overlayValue]

/-- The dialect is the one that overrides, or else the default, as long as the
sections are mappings. -/
theorem dialectOf_overlay
    (sections : forall name v, name ∈ Keyed.names defaults -> Keyed.get? name overrides = some v ->
      v.isMapping = true) :
    dialectOf (overlay defaults overrides) =
      ((mapping overrides).at? ["converter", "dialect"]).getD (.text "mysql") := by
  have byDefault : (mapping defaults).at? ["converter", "dialect"] = some (.text "mysql") := rfl
  have shown : dialectOf (overlay defaults overrides) =
      ((mapping (overlay defaults overrides)).at? ["converter", "dialect"]).getD (.text []) := by
    rw [at?_pair]
    rfl
  rw [shown]
  cases found : (mapping overrides).at? ["converter", "dialect"] with
  | some v =>
      have plain : overlayValue (some (.text "mysql")) v = v :=
        overlayValue_over_leaf (by rintro _ ⟨⟩; rfl) v
      have there := at?_overlayValue_of_some (some (mapping defaults)) once found
      rw [Option.bind_some, byDefault, plain] at there
      exact congrArg (Option.getD · (.text [])) there
  | none =>
      have mappings : forall front v, front <+: ["converter".toList, "dialect".toList] ->
          (mapping overrides).at? front = some v -> v.isMapping = true := by
        intro front v inFront there
        simp only [List.prefix_cons_iff, List.prefix_nil] at inFront
        rcases inFront with rfl | ⟨_, rfl, rfl | ⟨_, rfl, rfl⟩⟩
        · cases there
          rfl
        · refine sections "converter" v (by decide) ?_
          exact (Option.bind_fun_some _).symm.trans there
        · exact absurd (found.symm.trans there) (by simp)
      rw [(holds_overlay once).untouched _ found mappings, byDefault]
      rfl

theorem checked_overlay_eq_overlongDialect_iff :
    checked (overlay defaults overrides) = .error .overlongDialect ↔
      HaveOverlongDialect overrides := by
  rw [checked_eq_overlongDialect_iff]
  constructor
  · rintro ⟨sections, overlong⟩
    have overridden : forall name v, name ∈ Keyed.names defaults ->
        Keyed.get? name overrides = some v ->
        v.isMapping = true := fun name v listed found =>
      (isMapping_sectionOf_overlay_iff once listed).mp (sections name listed) v found
    refine ⟨overridden, ?_⟩
    rw [dialectOf_overlay once overridden] at overlong
    cases found : (mapping overrides).at? ["converter", "dialect"] with
    | some v =>
        rw [found] at overlong
        exact ⟨v, rfl, overlong⟩
    | none =>
        rw [found] at overlong
        cases overlong
  · rintro ⟨sections, v, found, overlong⟩
    refine ⟨fun name listed => ?_, ?_⟩
    · exact (isMapping_sectionOf_overlay_iff once listed).mpr fun v there =>
        sections name v listed there
    · rw [dialectOf_overlay once sections, found]
      exact overlong

end

/-- What comes of overrides that have texts as keys, are not nested too deeply to be written
down, and name nothing twice.  An overlong dialect stops the check; otherwise settings that can
be used are accepted and others refused with a failure.  Accepted settings hold the overrides
over the defaults, can be used in every part of the program, and are built from themselves as
they are. -/
theorem buildOrStop_outcome (overrides : Keyed Value)
    (once : (mapping overrides).namesOnce = true) :
    (HaveOverlongDialect overrides ∧ buildOrStop overrides = .error .tooManyDigits) ∨
      (¬ HaveOverlongDialect overrides ∧
        ((exists f, buildOrStop overrides = .error (.failure f) ∧ f.kind = .settings ∧
            ¬ Usable (overlay defaults overrides)) ∨
          (exists settings, buildOrStop overrides = .ok settings ∧
            buildOrStop settings = .ok settings ∧
            Usable settings ∧ Holds overrides settings))) := by
  have overlongIff : buildOrStop overrides = .error .tooManyDigits ↔
      HaveOverlongDialect overrides :=
    buildOrStop_eq_tooManyDigits_iff.trans (checked_overlay_eq_overlongDialect_iff once)
  by_cases overlong : HaveOverlongDialect overrides
  · exact .inl ⟨overlong, overlongIff.mpr overlong⟩
  · refine .inr ⟨overlong, ?_⟩
    by_cases usable : Usable (overlay defaults overrides)
    · right
      refine ⟨_, buildOrStop_eq_ok_iff.mpr ⟨rfl, usable⟩, ?_, usable, holds_overlay once⟩
      rw [buildOrStop_eq_ok_iff, overlay_overlay once]
      exact ⟨rfl, usable⟩
    · left
      cases built : buildOrStop overrides with
      | ok settings => exact absurd (buildOrStop_eq_ok_iff.mp built).2 usable
      | error fault =>
          have writable : fault ≠ .tooManyDigits := by
            rintro rfl
            exact overlong (overlongIff.mp built)
          obtain ⟨f, rfl, kind⟩ := failure_of_buildOrStop built writable
          exact ⟨f, rfl, kind, usable⟩

/-- Overrides with the least number that is overlong for their dialect. -/
def overlongOverrides : Keyed Value :=
  [("converter", .mapping [("dialect", .int (10 ^ Numeral.digitLimit : Nat))])]

/-- Overrides at every depth: a dialect, a mapping where there is a text, and a
section of their own. -/
def nestedOverrides : Keyed Value :=
  [("converter", .mapping [("dialect", .text " PgSQL ")]),
   ("depth", .mapping [("matcher", .mapping [("name", .text "suffix")])]),
   ("extra", .mapping [("notes", .mapping [])])]

theorem haveOverlongDialect_overlongOverrides : HaveOverlongDialect overlongOverrides where
  sections := by
    intro name v _ found
    have member := Keyed.mem_of_get? found
    simp only [overlongOverrides, List.mem_singleton, Prod.mk.injEq] at member
    rw [member.2]
    rfl
  dialect := by
    refine ⟨_, rfl, ?_⟩
    have long : ¬ (Text.ofNat (10 ^ Numeral.digitLimit)).length ≤ Numeral.digitLimit :=
      fun short => Nat.lt_irrefl _ ((Insert.length_ofNat_le_iff _).mp short)
    rw [isOverlong, Int.natAbs_natCast]
    exact decide_eq_true (Nat.not_le.mp long)

theorem buildOrStop_overlong_and_nested :
    ((mapping overlongOverrides).namesOnce = true ∧
      buildOrStop overlongOverrides = .error .tooManyDigits) ∧
      (mapping nestedOverrides).namesOnce = true ∧
        exists settings, buildOrStop nestedOverrides = .ok settings ∧
          buildOrStop settings = .ok settings ∧
          Usable settings ∧ Holds nestedOverrides settings := by
  have onceOverlong : (mapping overlongOverrides).namesOnce = true := by decide
  have onceNested : (mapping nestedOverrides).namesOnce = true := by decide
  refine ⟨⟨onceOverlong, ?_⟩, onceNested, ?_⟩
  · rcases buildOrStop_outcome overlongOverrides onceOverlong with ⟨_, stopped⟩ | ⟨short, _⟩
    · exact stopped
    · exact absurd haveOverlongDialect_overlongOverrides short
  · have built : buildOrStop nestedOverrides = .ok (overlay defaults nestedOverrides) := rfl
    rcases buildOrStop_outcome nestedOverrides onceNested with
      ⟨_, stopped⟩ | ⟨_, ⟨f, refused, _⟩ | accepted⟩
    · exact nomatch built.symm.trans stopped
    · exact nomatch built.symm.trans refused
    · exact accepted

end Settings
end SchemaAtlas
