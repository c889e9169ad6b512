import EntityTables.Generation
import EntityTables.Proofs.Emission.Run
import EntityTables.Proofs.Model.Graphs

/-!
# The units of a run

A run over all packages succeeds if and only if it succeeds for every single package, and then
it yields the units of the packages in order.

* `unitOfPackage_eq_ok_iff`: a package has a unit if and only if all its entities emit;
* `units_eq_ok_iff`: a run has units if and only if all its packages have one;
* `unitOfPackage_of_mem`, `units_map_package`: what the units of a run are;
* `flatMap_units_perm`: what holds of the units by package holds of the run by entity;
* `flatMap_joinTables_perm`, `flatMap_tables_perm`: the join tables and tables of all units.
-/

namespace EntityTables

theorem Report.toExcept_eq_ok_iff {α : Type} {report : Report} {value result : α} :
    report.toExcept value = .ok result ↔ report.failures = [] ∧ result = value := by
  unfold Report.toExcept
  cases report.failures <;> simp [eq_comm]

theorem Report.toExcept_eq_error_iff {α : Type} {report other : Report} {value : α} :
    report.toExcept value = .error other ↔ report.failures ≠ [] ∧ other = report := by
  unfold Report.toExcept
  cases report.failures <;> simp [eq_comm]

theorem Report.failures_ne_nil {α : Type} {report other : Report} {value : α}
    (hreport : report.toExcept value = .error other) : other.failures ≠ [] := by
  obtain ⟨hfailures, rfl⟩ := toExcept_eq_error_iff.mp hreport
  exact hfailures

theorem Report.failures_foldl_append (reports : List Report) (report : Report) :
    (reports.foldl Report.append report).failures =
      report.failures ++ reports.flatMap (·.failures) := by
  induction reports generalizing report with
  | nil => simp
  | cons first reports ih => simp [ih, Report.append]

/-- Results are all values if and only if none of them is an error. -/
theorem eq_map_ok_iff {ε α : Type} {results : List (Except ε α)} {values : List α} :
    results = values.map .ok ↔
      results.filterMap errorOf? = [] ∧ values = results.filterMap Except.toOption := by
  induction results generalizing values with
  | nil => simp [eq_comm]
  | cons result results ih =>
      cases result with
      | error error => cases values <;> simp [errorOf?]
      | ok value =>
          cases values with
          | nil => simp [errorOf?, Except.toOption]
          | cons other values =>
              simp only [List.map_cons, List.cons.injEq, Except.ok.injEq, ih, errorOf?,
                List.filterMap_cons, Except.toOption]
              tauto

/-- What can be said of every value by its input can be said of all values by their inputs. -/
theorem map_eq_map_of_results {ε α β γ : Type} {f : α → Except ε β} {inputs : List α}
    {values : List β} (hresults : inputs.map f = values.map .ok) {g : β → γ} {h : α → γ}
    (hvalue : ∀ input value, f input = .ok value → g value = h input) :
    values.map g = inputs.map h := by
  induction inputs generalizing values with
  | nil =>
      obtain rfl : values = [] := by simpa [eq_comm] using hresults
      rfl
  | cons input inputs ih =>
      cases values with
      | nil => simp at hresults
      | cons value values =>
          obtain ⟨hfirst, hrest⟩ := List.cons.inj hresults
          rw [List.map_cons, List.map_cons, hvalue _ _ hfirst, ih hrest]

namespace Run

variable {run : Run} {package : String} {unit : OutputUnit} {units : List OutputUnit}

/-- A package has a unit if and only if all its entities emit into an empty unit. -/
theorem unitOfPackage_eq_ok_iff :
    run.unitOfPackage package = .ok unit ↔
      run.Emits { package } (run.graphs.entitiesIn package) unit := by
  rw [← emitAll_eq_nil_iff, ← EntityGraphs.entriesIn_map_snd]
  simp only [unitOfPackage, emitPackage, Report.toExcept_eq_ok_iff]
  rw [Prod.ext_iff, and_comm, eq_comm (a := unit)]

theorem failures_ne_nil_of_unitOfPackage {report : Report}
    (hreport : run.unitOfPackage package = .error report) : report.failures ≠ [] :=
  Report.failures_ne_nil hreport

/-- A run has units if and only if all its packages have one, and then it has those. -/
theorem units_eq_ok_iff :
    run.units = .ok units ↔ run.graphs.packages.map run.unitOfPackage = units.map .ok := by
  rw [eq_map_ok_iff]
  simp only [Run.units, Report.toExcept_eq_ok_iff, Report.failures_foldl_append, List.nil_append]
  apply and_congr_left
  intro _
  constructor
  · intro hnone
    -- a package that fails reports something, so without failures no package fails
    apply List.eq_nil_iff_forall_not_mem.mpr
    intro report hreport
    obtain ⟨result, hresult, herror⟩ := List.mem_filterMap.mp hreport
    obtain ⟨package, _, rfl⟩ := List.mem_map.mp hresult
    exact failures_ne_nil_of_unitOfPackage (errorOf?_eq_some_iff.mp herror)
      (List.flatMap_eq_nil_iff.mp hnone report hreport)
  · intro hnone
    rw [hnone, List.flatMap_nil]

theorem package_of_unitOfPackage (hunit : run.unitOfPackage package = .ok unit) :
    unit.package = package :=
  (unitOfPackage_eq_ok_iff.mp hunit).grows.package_eq

/-- The units of a run are the units of their packages. -/
theorem unitOfPackage_of_mem (hunits : run.units = .ok units) (hunit : unit ∈ units) :
    run.unitOfPackage unit.package = .ok unit := by
  have hresult : Except.ok unit ∈ run.graphs.packages.map run.unitOfPackage := by
    rw [units_eq_ok_iff.mp hunits]
    exact List.mem_map_of_mem hunit
  obtain ⟨package, -, hpackage⟩ := List.mem_map.mp hresult
  rw [package_of_unitOfPackage hpackage]
  exact hpackage

/-- Every package has its own unit, in order. -/
theorem units_map_package (hunits : run.units = .ok units) :
    units.map (·.package) = run.graphs.packages := by
  have hpackages : units.map (·.package) = run.graphs.packages.map fun package => package := by
    apply map_eq_map_of_results (units_eq_ok_iff.mp hunits)
    intro package unit hunit
    exact package_of_unitOfPackage hunit
  rw [hpackages, List.map_id']

/-- No two units of a run are of one package. -/
theorem eq_of_package_eq (hunits : run.units = .ok units) {other : OutputUnit}
    (hunit : unit ∈ units) (hother : other ∈ units) (hpackage : unit.package = other.package) :
    unit = other := by
  have hnodup : (units.map OutputUnit.package).Nodup := by
    rw [units_map_package hunits]
    exact run.graphs.packages_nodup
  exact List.inj_on_of_nodup_map hnodup hunit hother hpackage

theorem exists_unit (hunits : run.units = .ok units) {entity : Entity}
    (hentity : entity ∈ run.graphs.entities) :
    ∃ unit ∈ units, unit.package = entity.package ∧
      run.unitOfPackage entity.package = .ok unit := by
  have hpackage : entity.package ∈ run.graphs.packages :=
    EntityGraphs.mem_packages.mpr ⟨entity, hentity, rfl⟩
  rw [← units_map_package hunits] at hpackage
  obtain ⟨unit, hmem, hpackage⟩ := List.mem_map.mp hpackage
  exact ⟨unit, hmem, hpackage, hpackage ▸ unitOfPackage_of_mem hunits hmem⟩

/-- The unit of a package declares the tables of its entities, in order. -/
theorem tables_map_entity (hunit : run.unitOfPackage package = .ok unit) :
    unit.tables.map (·.entity) = (run.graphs.entitiesIn package).map Entity.key :=
  (unitOfPackage_eq_ok_iff.mp hunit).tables_eq

/-- Every entity of a package was emitted into some unit on the way, and its table is the only one
of the entity in the unit of the package. -/
theorem exists_table (hunit : run.unitOfPackage package = .ok unit) {entity : Entity}
    (hentity : entity ∈ run.graphs.entitiesIn package) :
    ∃ before stage, run.stageOf before entity = .ok stage ∧ (before.commit stage).Extends unit ∧
      unit.tables.filter (·.entity = entity.key) =
        [(run.draft before entity).table run.settings] := by
  obtain ⟨before, stage, hstage, hextends⟩ :=
    (unitOfPackage_eq_ok_iff.mp hunit).stage_of_mem hentity
  have hkeys : (unit.tables.map Table.entity).Nodup := by
    rw [tables_map_entity hunit]
    exact run.graphs.nodup_keys.sublist (List.filter_sublist.map _)
  exact ⟨before, stage, hstage, hextends,
    filter_eq_singleton_of_nodup_map hkeys (table_mem_of_extends hstage hextends)⟩

/-- The unit of a package emits the join tables that its entities own. -/
theorem joinTables_of_unitOfPackage (hunit : run.unitOfPackage package = .ok unit) :
    unit.joinTables = (run.graphs.entitiesIn package).flatMap run.ownedJoinTables :=
  (unitOfPackage_eq_ok_iff.mp hunit).joinTables_eq

theorem mem_joinTables_iff (hunits : run.units = .ok units) (hunit : unit ∈ units)
    {table : JoinTable} :
    table ∈ unit.joinTables ↔
      ∃ entity ∈ run.graphs.entities, entity.package = unit.package ∧
        table ∈ run.ownedJoinTables entity := by
  rw [joinTables_of_unitOfPackage (unitOfPackage_of_mem hunits hunit), List.mem_flatMap]
  simp only [EntityGraphs.mem_entitiesIn, and_assoc]

/-- What every unit takes from the entities of its package, all units together take from all
entities. -/
theorem flatMap_units_perm (hunits : run.units = .ok units) {α : Type}
    {fromUnit : OutputUnit → List α} {fromEntity : Entity → List α}
    (hpackage : ∀ package unit, run.unitOfPackage package = .ok unit →
      fromUnit unit = (run.graphs.entitiesIn package).flatMap fromEntity) :
    (units.flatMap fromUnit).Perm (run.graphs.entities.flatMap fromEntity) := by
  have hpackages : units.map fromUnit = run.graphs.packages.map fun package =>
      (run.graphs.entitiesIn package).flatMap fromEntity :=
    map_eq_map_of_results (units_eq_ok_iff.mp hunits) hpackage
  rw [List.flatMap_def, hpackages, ← List.flatMap_def, ← List.flatMap_assoc]
  exact run.graphs.flatMap_packages_perm.flatMap_right _

theorem flatMap_joinTables_perm (hunits : run.units = .ok units) :
    (units.flatMap (·.joinTables)).Perm (run.graphs.entities.flatMap run.ownedJoinTables) :=
  flatMap_units_perm hunits fun _ _ => joinTables_of_unitOfPackage

theorem flatMap_tables_perm (hunits : run.units = .ok units) :
    ((units.flatMap (·.tables)).map (·.entity)).Perm (run.graphs.entities.map Entity.key) := by
  rw [List.map_flatMap, List.map_eq_flatMap]
  apply flatMap_units_perm hunits
  intro package unit hunit
  rw [tables_map_entity hunit, List.map_eq_flatMap]

end Run
end EntityTables
