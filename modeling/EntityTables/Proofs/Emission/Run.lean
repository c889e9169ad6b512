import EntityTables.Proofs.Emission.Stage

/-!
# Runs without a failure

`Run.Emits` relates a unit to the unit behind entities that all emit without an error, in the
order in which they are emitted; by `emitAll_eq_nil_iff` these are exactly the runs of `emitAll`
that report nothing.  Facts about whole runs are inductions over this relation.

* `Emits.grows`: a unit only grows;
* `Emits.stage_of_mem`: every entity was emitted into some unit on the way, and what it
  contributed is still there at the end;
* `Emits.invariant`: what every single entity preserves holds at the end;
* `Emits.joinTables_eq`, `Emits.tables_eq`: the tables and join tables of the final unit.
-/

namespace EntityTables

/-- The second unit holds everything that the first one holds, in its place. -/
structure OutputUnit.Extends (first second : OutputUnit) : Prop where
  package_eq : second.package = first.package
  declarations_prefix : first.declarations <+: second.declarations
  wrappers_prefix : first.wrappers <+: second.wrappers
  externals_subset : first.externals ⊆ second.externals

namespace OutputUnit

theorem Extends.refl (unit : OutputUnit) : unit.Extends unit where
  package_eq := rfl
  declarations_prefix := List.prefix_refl _
  wrappers_prefix := List.prefix_refl _
  externals_subset := List.Subset.refl _

theorem Extends.trans {first second third : OutputUnit} (hfirst : first.Extends second)
    (hsecond : second.Extends third) : first.Extends third where
  package_eq := hsecond.package_eq.trans hfirst.package_eq
  declarations_prefix := hfirst.declarations_prefix.trans hsecond.declarations_prefix
  wrappers_prefix := hfirst.wrappers_prefix.trans hsecond.wrappers_prefix
  externals_subset := List.Subset.trans hfirst.externals_subset hsecond.externals_subset

theorem Extends.tables_prefix {first second : OutputUnit} (hextends : first.Extends second) :
    first.tables <+: second.tables :=
  hextends.declarations_prefix.filterMap _

theorem extends_commit (unit : OutputUnit) (stage : Stage) : unit.Extends (unit.commit stage) where
  package_eq := rfl
  declarations_prefix := List.prefix_append _ _
  wrappers_prefix := List.prefix_append _ _
  externals_subset _ hmem := Ordered.mem_insertAll.mpr (.inl hmem)

end OutputUnit

namespace Run

variable {run : Run} {unit final : OutputUnit} {entity : Entity} {entities : List Entity}

/-- The entities are emitted into a unit one after the other, and none of them fails. -/
inductive Emits (run : Run) : OutputUnit → List Entity → OutputUnit → Prop
  | nil (unit : OutputUnit) : Emits run unit [] unit
  | cons {unit final : OutputUnit} {entity : Entity} {entities : List Entity} {stage : Stage}
      (hstage : run.stageOf unit entity = .ok stage)
      (hrest : Emits run (unit.commit stage) entities final) :
      Emits run unit (entity :: entities) final

theorem emitEntity_eq_ok_iff {after : OutputUnit} :
    run.emitEntity unit entity = .ok after ↔
      ∃ stage, run.stageOf unit entity = .ok stage ∧ after = unit.commit stage := by
  cases hstage : run.stageOf unit entity with
  | error failure => simp [emitEntity, hstage]
  | ok stage => simp [emitEntity, hstage, eq_comm]

/-- A run reports nothing if and only if it emits all its entities. -/
theorem emitAll_eq_nil_iff :
    run.emitAll unit entities = (final, []) ↔ run.Emits unit entities final := by
  constructor
  · intro hrun
    induction entities generalizing unit with
    | nil =>
        obtain ⟨rfl, -⟩ := Prod.mk.inj hrun
        exact .nil unit
    | cons entity entities ih =>
        rw [emitAll] at hrun
        cases hemit : run.emitEntity unit entity with
        | error failure =>
            rw [hemit] at hrun
            simp at hrun
        | ok after =>
            rw [hemit] at hrun
            obtain ⟨stage, hstage, rfl⟩ := emitEntity_eq_ok_iff.mp hemit
            exact .cons hstage (ih hrun)
  · intro hemits
    induction hemits with
    | nil unit => rfl
    | cons hstage _ ih =>
        rw [emitAll, emitEntity_eq_ok_iff.mpr ⟨_, hstage, rfl⟩]
        exact ih

/-- The table of an entity is still there when the unit has grown. -/
theorem table_mem_of_extends {stage : Stage} (hstage : run.stageOf unit entity = .ok stage)
    (hextends : (unit.commit stage).Extends final) :
    (run.draft unit entity).table run.settings ∈ final.tables := by
  refine hextends.tables_prefix.mem ?_
  rw [tables_commit hstage]
  exact List.mem_append_right _ (List.mem_singleton_self _)

namespace Emits

theorem grows (hemits : run.Emits unit entities final) : unit.Extends final := by
  induction hemits with
  | nil unit => exact .refl unit
  | cons _ _ ih => exact (OutputUnit.extends_commit _ _).trans ih

/-- Every entity of the run was emitted into some unit on the way, and what it contributed is
still there at the end. -/
theorem stage_of_mem (hemits : run.Emits unit entities final) (hmem : entity ∈ entities) :
    ∃ before stage, run.stageOf before entity = .ok stage ∧
      (before.commit stage).Extends final := by
  induction hemits with
  | nil unit => simp at hmem
  | cons hstage hrest ih =>
      rcases List.mem_cons.mp hmem with rfl | hlater
      · exact ⟨_, _, hstage, hrest.grows⟩
      · exact ih hlater

/-- What every single entity preserves holds behind all of them. -/
theorem invariant {Inv : OutputUnit → Prop}
    (hstep : ∀ unit entity stage, Inv unit → run.stageOf unit entity = .ok stage →
      Inv (unit.commit stage))
    (hemits : run.Emits unit entities final) (hinv : Inv unit) : Inv final := by
  induction hemits with
  | nil unit => exact hinv
  | cons hstage _ ih => exact ih (hstep _ _ _ hinv hstage)

/-- The run adds a table for each of its entities, in order. -/
theorem tables_eq (hemits : run.Emits unit entities final) :
    final.tables.map (·.entity) = unit.tables.map (·.entity) ++ entities.map Entity.key := by
  induction hemits with
  | nil unit => simp
  | cons hstage _ ih =>
      rw [ih, tables_commit hstage, List.map_append, List.append_assoc]
      rfl

/-- The run adds the join tables that its entities own, in order. -/
theorem joinTables_eq (hemits : run.Emits unit entities final) :
    final.joinTables = unit.joinTables ++ entities.flatMap run.ownedJoinTables := by
  induction hemits with
  | nil unit => simp
  | cons hstage _ ih =>
      rw [ih, joinTables_commit hstage, List.flatMap_cons, List.append_assoc]

end Emits
end Run
end EntityTables
