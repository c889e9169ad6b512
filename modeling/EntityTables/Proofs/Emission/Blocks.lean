import Mathlib.Data.List.Forall2
import EntityTables.Proofs.Emission.Run

/-!
# The declarations of a run

The declarations of a run come in blocks, one for each of its entities: the table of the entity
and behind it the join tables that the entity owns.  `Run.Declares` relates an entity to the
table that it declares, into whatever unit it was emitted; what does not depend on the unit is
read off from this relation.

* `Emits.blocks`: the tables and the declarations of a run;
* `Declares.primaryKey_name`: the key of a table has the name of the entity's id;
* `Declares.mem_columns`, `Declares.of_references`: the columns of a table that refer to other
  tables are those that the associations of its entity contribute.
-/

namespace EntityTables

/-- A table with join tables behind it. -/
def Declaration.block (table : Table) (joinTables : List JoinTable) : List Declaration :=
  .table table :: joinTables.map .joinTable

namespace Run

variable {run : Run} {unit final : OutputUnit} {entity : Entity} {entities : List Entity}
  {table : Table} {column : ColumnSpec}

/-- The table is the one that the entity declares when it is emitted into some unit. -/
def Declares (run : Run) (table : Table) (entity : Entity) : Prop :=
  ∃ unit stage, run.stageOf unit entity = .ok stage ∧
    table = (run.draft unit entity).table run.settings

/-- Whatever its kind, the column of an id or a property is made from the member. -/
theorem column_of_outcome {outcome : MemberOutcome}
    (houtcome : outcome ∈ (run.draft unit entity).key.toList ++ (run.draft unit entity).properties)
    (hcolumn : outcome.column = .ok column) :
    ∃ kind, column = outcome.member.column (outcome.member.recipeOf kind) := by
  obtain ⟨after, hplaces, -⟩ := draft_places run unit entity
  obtain ⟨before, between, -, placed, -⟩ := exists_placed hplaces houtcome
  exact placed.column_eq hcolumn

/-- A run declares the block of each of its entities, in order. -/
theorem Emits.blocks (hemits : run.Emits unit entities final) :
    ∃ tables, List.Forall₂ run.Declares tables entities ∧
      final.tables = unit.tables ++ tables ∧
      final.declarations = unit.declarations ++
        (List.zipWith Declaration.block tables (entities.map run.ownedJoinTables)).flatten := by
  induction hemits with
  | nil unit => exact ⟨[], .nil, by simp, by simp⟩
  | @cons unit final entity entities stage hstage hrest ih =>
      obtain ⟨tables, hdeclares, htables, hdeclarations⟩ := ih
      let table := (run.draft unit entity).table run.settings
      refine ⟨table :: tables, .cons ⟨unit, stage, hstage, rfl⟩ hdeclares, ?_, ?_⟩
      · rw [htables, tables_commit hstage, List.append_assoc]
        rfl
      · rw [hdeclarations, OutputUnit.commit, stageOf_declarations hstage, List.append_assoc]
        rfl

/-! ## The table of an entity -/

namespace Declares

theorem entity_eq (hdeclares : run.Declares table entity) : table.entity = entity.key := by
  obtain ⟨unit, stage, hstage, rfl⟩ := hdeclares
  rfl

theorem objectName_eq (hdeclares : run.Declares table entity) :
    table.objectName = run.settings.tableObject entity.name := by
  obtain ⟨unit, stage, hstage, rfl⟩ := hdeclares
  rfl

/-- The key of a table has the name of the entity's id as it is. -/
theorem primaryKey_name (hdeclares : run.Declares table entity) {id : IdField}
    (hid : entity.id = some id) : ∃ key, table.primaryKey = some key ∧ key.name = id.name := by
  obtain ⟨unit, stage, hstage, rfl⟩ := hdeclares
  obtain ⟨outcome, houtcome, key, hmember, hcolumn, hkey⟩ := table_primaryKey hstage hid
  obtain ⟨kind, rfl⟩ := column_of_outcome houtcome hcolumn
  exact ⟨_, hkey, congrArg Member.name hmember⟩

/-- The foreign key that an association contributes is a column of the table. -/
theorem mem_columns (hdeclares : run.Declares table entity) {association : Association}
    (hassociation : association ∈ entity.associations)
    (hcontribution : run.contribution entity association = .ok (.foreignKey column)) :
    column ∈ table.allColumns := by
  obtain ⟨unit, stage, hstage, rfl⟩ := hdeclares
  refine List.mem_append_right _ (List.mem_append_right _ (List.mem_filterMap.mpr ?_))
  refine ⟨⟨association, run.contribution entity association⟩,
    List.mem_map.mpr ⟨association, hassociation, rfl⟩, ?_⟩
  rw [hcontribution, Except.toOption, Option.bind_some, Contribution.column?]

/-- A column of the table that refers to another table is a foreign key that some association
contributes. -/
theorem of_references (hdeclares : run.Declares table entity) (hcolumn : column ∈ table.allColumns)
    {ref : ColumnRef} (href : column.recipe.references = some ref) :
    ∃ association ∈ entity.associations,
      run.contribution entity association = .ok (.foreignKey column) := by
  obtain ⟨unit, stage, hstage, rfl⟩ := hdeclares
  rcases Draft.of_mem_allColumns hcolumn with
    ⟨outcome, houtcome, hmember⟩ | ⟨outcome, houtcome, hforeign⟩
  · obtain ⟨kind, rfl⟩ := column_of_outcome houtcome hmember
    simp [Member.column] at href
  · obtain ⟨association, hassociation, rfl⟩ := List.mem_map.mp houtcome
    exact ⟨association, hassociation, hforeign⟩

end Declares
end Run
end EntityTables
