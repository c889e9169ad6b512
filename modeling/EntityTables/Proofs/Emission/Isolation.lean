import EntityTables.Proofs.Emission.Failures

/-!
# Failing entities are isolated

Entities are emitted into a unit one after the other.  An entity that fails leaves the unit as it
is, one that emits adds to it.  No error depends on the unit, so an entity that fails does so
wherever it stands in a sequence, and leaving it out changes nothing behind it.

* `emitAll_cons`: emitting an entity and then the others behind it;
* `emitAll_append`: a sequence of entities is emitted part by part;
* `extends_emitAll`: whatever fails, a unit only grows;
* `emitAll_filter`: the entities that fail can be left out;
* `emitAll_isolates_failures`: all of this together.
-/

namespace EntityTables
namespace Run

variable {run : Run} {unit after : OutputUnit} {entity : Entity} {failure : EntityFailure}

/-! ## One entity -/

theorem emitEntity_eq_error_iff :
    run.emitEntity unit entity = .error failure ↔
      entity.failure? run.settings run.graphs = some failure := by
  rw [← errorOf?_eq_some_iff, errorOf?_emitEntity]

/-- An entity emits into one unit if and only if it emits into any other. -/
theorem isOk_emitEntity (run : Run) (unit : OutputUnit) (entity : Entity) :
    (run.emitEntity unit entity).isOk = (entity.failure? run.settings run.graphs).isNone := by
  rw [← errorOf?_emitEntity run unit entity]
  cases run.emitEntity unit entity <;> rfl

theorem afterEntity_of_ok (hemit : run.emitEntity unit entity = .ok after) :
    run.afterEntity unit entity = after := by
  rw [afterEntity, hemit]

/-- Nothing of what a failing entity has drafted reaches the unit. -/
theorem afterEntity_of_error (hemit : run.emitEntity unit entity = .error failure) :
    run.afterEntity unit entity = unit := by
  rw [afterEntity, hemit]

theorem extends_of_emitEntity (hemit : run.emitEntity unit entity = .ok after) :
    unit.Extends after := by
  obtain ⟨stage, -, rfl⟩ := emitEntity_eq_ok_iff.mp hemit
  exact unit.extends_commit stage

theorem extends_afterEntity (run : Run) (unit : OutputUnit) (entity : Entity) :
    unit.Extends (run.afterEntity unit entity) := by
  cases hemit : run.emitEntity unit entity with
  | ok after =>
      rw [afterEntity_of_ok hemit]
      exact extends_of_emitEntity hemit
  | error failure =>
      rw [afterEntity_of_error hemit]
      exact .refl unit

/-! ## Entities one after the other -/

theorem emitAll_cons (run : Run) (unit : OutputUnit) (entity : Entity) (entities : List Entity) :
    run.emitAll unit (entity :: entities) =
      ((run.emitAll (run.afterEntity unit entity) entities).1,
        (entity.failure? run.settings run.graphs).toList ++
          (run.emitAll (run.afterEntity unit entity) entities).2) := by
  rw [emitAll, ← errorOf?_emitEntity run unit entity]
  cases hemit : run.emitEntity unit entity with
  | ok after => simp only [afterEntity_of_ok hemit, errorOf?, Option.toList_none, List.nil_append]
  | error failure =>
      simp only [afterEntity_of_error hemit, errorOf?, Option.toList_some, List.singleton_append]

/-- The entities behind others are emitted into the unit that those have left. -/
theorem emitAll_append (run : Run) (unit : OutputUnit) (first second : List Entity) :
    run.emitAll unit (first ++ second) =
      ((run.emitAll (run.emitAll unit first).1 second).1,
        (run.emitAll unit first).2 ++ (run.emitAll (run.emitAll unit first).1 second).2) := by
  induction first generalizing unit with
  | nil => rfl
  | cons entity first ih => simp only [List.cons_append, emitAll_cons, ih, List.append_assoc]

theorem emitAll_concat_fst (run : Run) (unit : OutputUnit) (entities : List Entity)
    (entity : Entity) :
    (run.emitAll unit (entities ++ [entity])).1 =
      run.afterEntity (run.emitAll unit entities).1 entity := by
  rw [emitAll_append, emitAll_cons]
  rfl

/-- Whatever fails on the way, a unit only grows. -/
theorem extends_emitAll (run : Run) (unit : OutputUnit) (entities : List Entity) :
    unit.Extends (run.emitAll unit entities).1 := by
  induction entities generalizing unit with
  | nil => exact .refl unit
  | cons entity entities ih =>
      rw [emitAll_cons]
      exact (extends_afterEntity run unit entity).trans (ih _)

/-- The entities that do not fail, emitted alone, come to the same unit and report nothing. -/
theorem emitAll_filter (run : Run) (unit : OutputUnit) (entities : List Entity) :
    run.emitAll unit (entities.filter fun entity =>
        (entity.failure? run.settings run.graphs).isNone) =
      ((run.emitAll unit entities).1, []) := by
  induction entities generalizing unit with
  | nil => rfl
  | cons entity entities ih =>
      rw [emitAll_cons]
      cases hfailure : entity.failure? run.settings run.graphs with
      | none =>
          rw [List.filter_cons_of_pos (by rw [hfailure, Option.isNone_none]), emitAll_cons, ih,
            hfailure, Option.toList_none, List.append_nil]
      | some failure =>
          -- what is left out has not changed the unit either
          have hunit : run.afterEntity unit entity = unit :=
            afterEntity_of_error (emitEntity_eq_error_iff.mpr hfailure)
          rw [List.filter_cons_of_neg (by simp [hfailure]), ih, hunit]

/-! ## A sequence of entities -/

/-- Entities that fail while others are emitted into the same unit leave no trace in it. -/
structure FailuresIsolated (run : Run) (unit : OutputUnit) (entities : List Entity) : Prop where
  /-- An entity that fails leaves the unit as it was. -/
  unchanged : ∀ earlier entity failure, earlier ++ [entity] <+: entities →
    run.emitEntity (run.emitAll unit earlier).1 entity = .error failure →
      (run.emitAll unit (earlier ++ [entity])).1 = (run.emitAll unit earlier).1
  /-- An entity that emits keeps what is in the unit, in its place. -/
  grows : ∀ earlier entity after, earlier ++ [entity] <+: entities →
    run.emitEntity (run.emitAll unit earlier).1 entity = .ok after →
      (run.emitAll unit (earlier ++ [entity])).1 = after ∧
        (run.emitAll unit earlier).1.Extends after
  /-- Whether an entity fails, and with which errors, does not depend on the unit. -/
  independent : ∀ first second entity,
    errorOf? (run.emitEntity first entity) = errorOf? (run.emitEntity second entity)
  /-- The entities that do not fail, emitted alone, come to the same unit. -/
  filtered : run.emitAll unit (entities.filter fun entity => (run.emitEntity unit entity).isOk) =
    ((run.emitAll unit entities).1, [])

/-- Into whatever unit entities are emitted, those that fail are isolated. -/
theorem emitAll_isolates_failures (run : Run) (unit : OutputUnit) (entities : List Entity) :
    run.FailuresIsolated unit entities where
  unchanged earlier entity failure _ hemit := by
    rw [emitAll_concat_fst, afterEntity_of_error hemit]
  grows earlier entity after _ hemit := by
    rw [emitAll_concat_fst, afterEntity_of_ok hemit]
    exact ⟨rfl, extends_of_emitEntity hemit⟩
  independent first second entity := by
    rw [errorOf?_emitEntity, errorOf?_emitEntity]
  filtered := by
    simp only [isOk_emitEntity]
    exact emitAll_filter run unit entities

end Run

/-- A parcel and an order with converted ids of one name.  The parcel refers to a table of another
package, and its state has no column. -/
def shopOfParcels : EntityGraphs where
  graphs :=
    let converted (name converter : String) : IdField :=
      { IdField.named "id" ⟨"shop", name⟩ with
        converter := some ⟨converter, NativeType.long.valueType⟩ }
    let depot : Association :=
      ⟨"depot", "stock.Depot", .manyToOne, .named "id" NativeType.long.valueType, none, true, none,
        none⟩
    [⟨"shop", [
      { Entity.named "shop.Parcel" "parcels" with
        id := some (converted "ParcelId" "ParcelIdConverter")
        properties := [.named "state" ⟨"shop", "State"⟩]
        associations := [depot] },
      { Entity.named "shop.Order" "orders" with
        id := some (converted "OrderId" "OrderIdConverter") },
      Entity.named "stock.Depot" "depots"]⟩]
  nodup_keys := by decide
  target_mem := by decide

/-- The parcel fails, so the order can still use the name `id` for its wrapper and nothing of
another package is referred to. -/
theorem shopOfParcels_isolates_failures :
    let run := Run.over shopOfParcels {}
    let entities := shopOfParcels.entitiesIn "shop"
    (run.emitAll { package := "shop" } entities).2.map (·.entity) = ["Parcel"] ∧
      (run.emitAll { package := "shop" } entities).1.wrappers.map (fun wrapper =>
        (wrapper.name, wrapper.converter)) = [("id", "OrderIdConverter")] ∧
      (run.emitAll { package := "shop" } entities).1.externals = [] ∧
      run.FailuresIsolated { package := "shop" } entities :=
  ⟨rfl, rfl, rfl, Run.emitAll_isolates_failures _ _ _⟩

end EntityTables
