import EntityTables.Proofs.Emission.Failures
import EntityTables.Proofs.Generation.Units

/-!
# The report of a run

A run goes through the packages and emits the entities of each.  Every entity is attempted, so
the report of a run that fails consists of the failures of all entities, package by package.

* `failures_emitPackage`: the failures of one package;
* `errorOf?_units`: the report of a run;
* `generateAll_report`: a run fails if and only if some entity has errors, and its report is
  exactly these errors.
-/

namespace EntityTables

namespace EntityGraphs

/-- The failures of the entities of a package, in the order of graphs and entities. -/
def failuresIn (settings : Settings) (graphs : EntityGraphs) (package : String) :
    List EntityFailure :=
  (graphs.entitiesIn package).filterMap (Entity.failure? settings graphs)

/-- The failures of all entities, in the order in which their packages are first seen. -/
def failures (settings : Settings) (graphs : EntityGraphs) : List EntityFailure :=
  graphs.packages.flatMap (graphs.failuresIn settings)

/-- The failures are those of the entities, taken package by package. -/
theorem failures_eq (settings : Settings) (graphs : EntityGraphs) :
    graphs.failures settings =
      (graphs.packages.flatMap graphs.entitiesIn).filterMap (Entity.failure? settings graphs) := by
  rw [List.filterMap_flatMap]
  rfl

theorem failures_perm (settings : Settings) (graphs : EntityGraphs) :
    (graphs.failures settings).Perm
      (graphs.entities.filterMap (Entity.failure? settings graphs)) := by
  rw [failures_eq]
  exact graphs.flatMap_packages_perm.filterMap _

/-- There is a failure if and only if some entity has an error: every entity is in a package. -/
theorem failures_ne_nil_iff {settings : Settings} {graphs : EntityGraphs} :
    graphs.failures settings ≠ [] ↔
      ∃ entity ∈ graphs.entities, entity.errors settings graphs ≠ [] := by
  rw [failures_eq, Ne, List.filterMap_eq_nil_iff]
  simp only [graphs.flatMap_packages_perm.mem_iff, Entity.failure?_eq_none_iff]
  push Not
  rfl

/-- The errors of a run are those of its entities. -/
theorem mem_flatMap_failures_iff {settings : Settings} {graphs : EntityGraphs}
    {error : EmissionError} :
    error ∈ (graphs.failures settings).flatMap (·.errors) ↔
      ∃ entity ∈ graphs.entities, error ∈ entity.errors settings graphs := by
  simp only [List.mem_flatMap, (failures_perm settings graphs).mem_iff, List.mem_filterMap]
  constructor
  · rintro ⟨failure, ⟨entity, hentity, hfailure⟩, herror⟩
    unfold Entity.failure? at hfailure
    split at hfailure
    · contradiction
    · obtain rfl := Option.some.inj hfailure
      exact ⟨entity, hentity, herror⟩
  · rintro ⟨entity, hentity, herror⟩
    have hfails : entity.errors settings graphs ≠ [] := List.ne_nil_of_mem herror
    exact ⟨_, ⟨entity, hentity, by rw [Entity.failure?, if_neg hfails]⟩, herror⟩

end EntityGraphs

theorem errorOf?_toExcept {α : Type} (report : Report) (value : α) :
    errorOf? (report.toExcept value) = if report.failures = [] then none else some report := by
  unfold Report.toExcept
  simp only [List.isEmpty_iff]
  split <;> rfl

/-- A result without an error reports nothing, so all results together report the failures of
all inputs. -/
theorem flatMap_failures_results {α β : Type} {f : α → Except Report β}
    {failuresOf : α → List EntityFailure}
    (hresult : ∀ input, errorOf? (f input) =
      if failuresOf input = [] then none else some ⟨failuresOf input⟩) (inputs : List α) :
    ((inputs.map f).filterMap errorOf?).flatMap (·.failures) = inputs.flatMap failuresOf := by
  induction inputs with
  | nil => rfl
  | cons input inputs ih =>
      rw [List.map_cons, List.filterMap_cons, hresult, List.flatMap_cons]
      -- an input without failures has no report to be appended
      by_cases hempty : failuresOf input = []
      · rw [if_pos hempty, hempty, List.nil_append]
        exact ih
      · rw [if_neg hempty, List.flatMap_cons, ih]

namespace Run

variable (run : Run)

theorem failures_emitPackage (package : String) :
    (run.emitPackage { package }).2 = run.graphs.failuresIn run.settings package := by
  rw [emitPackage, EntityGraphs.entriesIn_map_snd, emitAll_failures, EntityGraphs.failuresIn]

theorem errorOf?_unitOfPackage (package : String) :
    errorOf? (run.unitOfPackage package) =
      if run.graphs.failuresIn run.settings package = [] then none
      else some ⟨run.graphs.failuresIn run.settings package⟩ := by
  rw [← failures_emitPackage]
  exact errorOf?_toExcept _ _

/-- The report of a run is the failures of all packages, unless there are none. -/
theorem errorOf?_units :
    errorOf? run.units =
      if run.graphs.failures run.settings = [] then none
      else some ⟨run.graphs.failures run.settings⟩ := by
  let reports := (run.graphs.packages.map run.unitOfPackage).filterMap errorOf?
  have hfailures :
      (reports.foldl Report.append {}).failures = run.graphs.failures run.settings := by
    rw [Report.failures_foldl_append, flatMap_failures_results run.errorOf?_unitOfPackage]
    rfl
  rw [units, errorOf?_toExcept, ← hfailures]

end Run

/-! ## A run over all packages -/

theorem generateAll_succeeds_iff {graphs : EntityGraphs} {settings : Settings} :
    (∃ units, generateAll graphs settings = .ok units) ↔ graphs.failures settings = [] := by
  rw [← errorOf?_eq_none_iff, generateAll, Run.errorOf?_units]
  by_cases hempty : graphs.failures settings = [] <;> simp [Run.over, hempty]

/-- The report of a run that fails consists of the failures of all packages. -/
theorem generateAll_failures {graphs : EntityGraphs} {settings : Settings} {report : Report}
    (hreport : generateAll graphs settings = .error report) :
    report.failures = graphs.failures settings := by
  rw [← errorOf?_eq_some_iff, generateAll, Run.errorOf?_units] at hreport
  split at hreport
  · contradiction
  · exact congrArg Report.failures (Option.some.inj hreport).symm

/-- A run fails if and only if some entity has an error.  Its report then names each entity that
has errors once, with all of them, in the order of packages, graphs and entities.  These errors
are those of the entity alone: it fails with them in every unit, and never because a target is
unknown. -/
theorem generateAll_report (graphs : EntityGraphs) (settings : Settings) :
    ((∃ report, generateAll graphs settings = .error report) ↔
        ∃ entity ∈ graphs.entities, entity.errors settings graphs ≠ []) ∧
      (∀ report, generateAll graphs settings = .error report →
        report.failures = graphs.failures settings) ∧
      (∀ unit entity, errorOf? ((Run.over graphs settings).emitEntity unit entity) =
        entity.failure? settings graphs) ∧
      ∀ entity ∈ graphs.entities, ∀ key, .unknownEntity key ∉ entity.errors settings graphs := by
  have hreport : errorOf? (generateAll graphs settings) =
      if graphs.failures settings = [] then none else some ⟨graphs.failures settings⟩ :=
    (Run.over graphs settings).errorOf?_units
  refine ⟨?_, ?_, ?_, ?_⟩
  · simp only [← errorOf?_eq_some_iff, hreport, ← EntityGraphs.failures_ne_nil_iff]
    by_cases hempty : graphs.failures settings = [] <;> simp [hempty]
  · intro report herror
    rw [← errorOf?_eq_some_iff, hreport] at herror
    by_cases hempty : graphs.failures settings = []
    · simp [hempty] at herror
    · rw [if_neg hempty] at herror
      exact congrArg Report.failures (Option.some.inj herror).symm
  · exact (Run.over graphs settings).errorOf?_emitEntity
  · intro entity hentity key
    exact Entity.unknownEntity_not_mem_errors hentity key

/-- Faults in two graphs and two packages.  The order has three of them; the item has no id for
the join table that the tag declares first. -/
def shopOfFaults : EntityGraphs where
  graphs :=
    let id := IdField.named "id" NativeType.long.valueType
    let flag := IdField.named "flag" NativeType.boolean.valueType
    let money := Property.named "total" ⟨"shop", "Money"⟩
    let state := { Property.named "state" ⟨"shop", "State"⟩ with
      converter := some ⟨"StateConverter", NativeType.int.valueType⟩ }
    let owner : Association := ⟨"owner", "shop.Order", .manyToOne, flag, none, true, none, none⟩
    let items : Association := ⟨"items", "shop.Item", .manyToMany, id, none, true, none, none⟩
    let tags : Association := ⟨"tags", "base.Tag", .manyToMany, id, none, true, none, none⟩
    [⟨"first", [
      { Entity.named "base.Tag" "tags" with id := some id, associations := [items] },
      { Entity.named "shop.Order" "orders" with
        id := some id, properties := [money, state], associations := [owner] }]⟩,
    ⟨"second", [
      { Entity.named "shop.Item" "items" with associations := [tags] },
      { Entity.named "base.Label" "labels" with id := some flag }]⟩]
  nodup_keys := by decide
  target_mem := by decide

/-- All faults are reported, those of the first package first. -/
theorem shopOfFaults_report :
    ∃ report, generateAll shopOfFaults {} = .error report ∧
      report.failures = [
        ⟨"Label", [.idTypeNotSupported NativeType.boolean.valueType]⟩,
        ⟨"Order", [.propertyTypeNotSupported ⟨"shop", "Money"⟩,
          .converterTargetNotSupported NativeType.int.valueType,
          .idTypeNotSupported NativeType.boolean.valueType]⟩,
        ⟨"Item", [.missingId "Item"]⟩] := by
  obtain ⟨hfails, hreport, -, -⟩ := generateAll_report shopOfFaults {}
  obtain ⟨report, herror⟩ := hfails.mpr (by decide)
  refine ⟨report, herror, ?_⟩
  rw [hreport report herror]
  decide

end EntityTables
