import EntityTables.Proofs.Emission.Isolation
import EntityTables.Proofs.Generation.Units

/-!
# Ways to the same units

Entities can be emitted graph by graph, package by package or all in one run.  A graph is visited
entity by entity, and those of other packages are passed over; a package takes its entities from
all graphs; a run takes one package after the other.  All three come to the same, because the
package of a unit never changes and entities emitted part by part are emitted all the same.

* `emitGraph_eq_foldl`: a graph is emitted by visiting its entities;
* `emitGraphs_eq_emitPackage`: all graphs one after the other emit the package;
* `units_succeeds_iff`, `failures_of_units_eq_error`: a run is its packages;
* `generation_pathsAgree`: all of this together.
-/

namespace EntityTables

namespace Run

variable {run : Run} {report : Report}

/-- An entity of a graph is visited: one of another package is passed over, and one that fails is
reported and leaves the unit as it is. -/
def visit (run : Run) (state : OutputUnit × List EntityFailure) (entity : Entity) :
    OutputUnit × List EntityFailure :=
  if entity.package = state.1.package then
    match run.emitEntity state.1 entity with
    | .ok unit => (unit, state.2)
    | .error failure => (state.1, state.2 ++ [failure])
  else state

/-- Graphs are emitted into a unit one after the other. -/
def emitGraphs (run : Run) (unit : OutputUnit) :
    List EntityGraph → OutputUnit × List EntityFailure
  | [] => (unit, [])
  | graph :: graphs =>
    let (unit, failures) := run.emitGraph unit graph
    let (unit, laterFailures) := emitGraphs run unit graphs
    (unit, failures ++ laterFailures)

/-! ## Graph by graph -/

theorem package_emitAll (run : Run) (unit : OutputUnit) (entities : List Entity) :
    (run.emitAll unit entities).1.package = unit.package :=
  (run.extends_emitAll unit entities).package_eq

/-- Visiting entities emits those of the unit's package and adds their failures to the earlier
ones. -/
theorem foldl_visit (run : Run) (unit : OutputUnit) (failures : List EntityFailure)
    (entities : List Entity) :
    entities.foldl run.visit (unit, failures) =
      ((run.emitAll unit (entities.filter (·.package = unit.package))).1,
        failures ++ (run.emitAll unit (entities.filter (·.package = unit.package))).2) := by
  induction entities generalizing unit failures with
  | nil => simp [emitAll]
  | cons entity entities ih =>
      by_cases hpackage : entity.package = unit.package
      · rw [List.foldl_cons, List.filter_cons_of_pos (by simpa using hpackage)]
        cases hemit : run.emitEntity unit entity with
        | ok after =>
            -- the entities behind this one are compared with the package of the new unit
            have hafter : after.package = unit.package := (extends_of_emitEntity hemit).package_eq
            have hvisit : run.visit (unit, failures) entity = (after, failures) := by
              simp only [visit, if_pos hpackage, hemit]
            rw [hvisit, ih, hafter]
            simp only [emitAll, hemit]
        | error failure =>
            have hvisit : run.visit (unit, failures) entity = (unit, failures ++ [failure]) := by
              simp only [visit, if_pos hpackage, hemit]
            rw [hvisit, ih]
            simp only [emitAll, hemit, List.append_assoc, List.singleton_append]
      · have hvisit : run.visit (unit, failures) entity = (unit, failures) := if_neg hpackage
        rw [List.foldl_cons, List.filter_cons_of_neg (by simpa using hpackage), hvisit, ih]

/-- A graph is emitted by visiting its entities in order. -/
theorem emitGraph_eq_foldl (run : Run) (unit : OutputUnit) (graph : EntityGraph) :
    run.emitGraph unit graph = graph.entities.foldl run.visit (unit, []) := by
  rw [foldl_visit, List.nil_append]
  rfl

/-- Graphs one after the other emit their entities in order. -/
theorem emitGraphs_eq_emitAll (run : Run) (unit : OutputUnit) (graphs : List EntityGraph) :
    run.emitGraphs unit graphs =
      run.emitAll unit ((entitiesOf graphs).filter (·.package = unit.package)) := by
  induction graphs generalizing unit with
  | nil => rfl
  | cons graph graphs ih =>
      have hentities : entitiesOf (graph :: graphs) = graph.entities ++ entitiesOf graphs :=
        List.flatMap_cons
      simp only [emitGraphs, emitGraph, ih, hentities, List.filter_append, emitAll_append,
        package_emitAll]

/-- All graphs of a run, one after the other, emit the unit's package, whatever the unit. -/
theorem emitGraphs_eq_emitPackage (run : Run) (unit : OutputUnit) :
    run.emitGraphs unit run.graphs.graphs = run.emitPackage unit := by
  rw [emitGraphs_eq_emitAll, emitPackage, EntityGraphs.entriesIn_map_snd]
  rfl

/-! ## Package by package -/

/-- A run succeeds if and only if every package does. -/
theorem units_succeeds_iff :
    (∃ units, run.units = .ok units) ↔
      ∀ package ∈ run.graphs.packages, ∃ unit, run.unitOfPackage package = .ok unit := by
  constructor
  · rintro ⟨units, hunits⟩ package hpackage
    have hresult : run.unitOfPackage package ∈ units.map .ok := by
      rw [← units_eq_ok_iff.mp hunits]
      exact List.mem_map_of_mem hpackage
    obtain ⟨unit, -, hunit⟩ := List.mem_map.mp hresult
    exact ⟨unit, hunit.symm⟩
  · intro hpackages
    have hnone : (run.graphs.packages.map run.unitOfPackage).filterMap errorOf? = [] := by
      rw [List.filterMap_map, List.filterMap_eq_nil_iff]
      intro package hpackage
      exact errorOf?_eq_none_iff.mpr (hpackages package hpackage)
    exact ⟨_, units_eq_ok_iff.mpr (eq_map_ok_iff.mpr ⟨hnone, rfl⟩)⟩

/-- The report of a run that fails is put together from those of the packages that fail. -/
theorem failures_of_units_eq_error (hreport : run.units = .error report) :
    report.failures =
      ((run.graphs.packages.map run.unitOfPackage).filterMap errorOf?).flatMap (·.failures) := by
  obtain ⟨-, rfl⟩ := Report.toExcept_eq_error_iff.mp hreport
  rw [Report.failures_foldl_append]
  rfl

end Run

/-! ## All ways -/

/-- Generating everything is generating every package, and emitting a package is emitting every
graph. -/
structure PathsAgree (graphs : EntityGraphs) (settings : Settings) : Prop where
  /-- The run succeeds if and only if every package does. -/
  succeeds_iff : (∃ units, generateAll graphs settings = .ok units) ↔
    ∀ package ∈ graphs.packages, ∃ unit, generatePackage graphs package settings = .ok unit
  /-- It then has the units of the packages, in order. -/
  units : ∀ units, generateAll graphs settings = .ok units →
    graphs.packages.map (generatePackage graphs · settings) = units.map .ok
  /-- Otherwise it has the reports of the packages that fail, in order. -/
  report : ∀ report, generateAll graphs settings = .error report →
    report.failures = ((graphs.packages.map (generatePackage graphs · settings)).filterMap
      errorOf?).flatMap (·.failures)
  /-- A graph is emitted entity by entity, those of other packages being passed over. -/
  visited : ∀ unit graph, (Run.over graphs settings).emitGraph unit graph =
    graph.entities.foldl (Run.over graphs settings).visit (unit, [])
  /-- The graphs one after the other leave the unit and the failures of the whole package. -/
  graphByGraph : ∀ unit, (Run.over graphs settings).emitGraphs unit graphs.graphs =
    (Run.over graphs settings).emitPackage unit

/-- Graph by graph, package by package and all in one run: the units and the failures are the
same. -/
theorem generation_pathsAgree (graphs : EntityGraphs) (settings : Settings) :
    PathsAgree graphs settings where
  succeeds_iff := Run.units_succeeds_iff
  units _ hunits := Run.units_eq_ok_iff.mp hunits
  report _ hreport := Run.failures_of_units_eq_error hreport
  visited := (Run.over graphs settings).emitGraph_eq_foldl
  graphByGraph := (Run.over graphs settings).emitGraphs_eq_emitPackage

/-- Two graphs that share a package, with another package in between.  The ids of the package have
different converters and one name, and the state of the parcel has no column. -/
def graphsOfParcels : EntityGraphs where
  graphs :=
    let converted (converter : String) : IdField :=
      { IdField.named "id" ⟨"shop", "Key"⟩ with
        converter := some ⟨converter, NativeType.long.valueType⟩ }
    [⟨"first", [
      { Entity.named "shop.Order" "orders" with id := some (converted "OrderKeys") },
      Entity.named "stock.Depot" "depots"]⟩,
    ⟨"second", [
      { Entity.named "shop.Parcel" "parcels" with
        properties := [.named "state" ⟨"shop", "State"⟩] },
      { Entity.named "shop.Label" "labels" with id := some (converted "LabelKeys") }]⟩]
  nodup_keys := by decide
  target_mem := by decide

/-- The wrapper of the first graph is known when the second is emitted, so the label has to qualify
its own; the parcel fails in either way. -/
theorem graphsOfParcels_pathsAgree :
    let run := Run.over graphsOfParcels {}
    (run.emitGraphs { package := "shop" } graphsOfParcels.graphs).1.wrappers.map (·.name) =
        ["id", "labelId"] ∧
      (run.emitGraphs { package := "shop" } graphsOfParcels.graphs).2.map (·.entity) =
        ["Parcel"] ∧
      PathsAgree graphsOfParcels {} :=
  ⟨rfl, rfl, generation_pathsAgree graphsOfParcels {}⟩

end EntityTables
