import EntityTables.Proofs.Emission.Columns

/-!
# The shape of an entity's table

The table of an entity has a key for its id, a column for each property and a foreign key for each
association that is stored in the entity's own row, in this order and nothing else.
`Table.MadeFrom` says so for any relations between columns and what they are made from, and single
columns are looked at through these relations.

* `forall₂_foreignKeys`: which associations are stored in the row, and as which column;
* `Table.Represents.madeFrom`: a table that represents an entity is made from its members and
  associations;
* `isKey_of_represents`, `isProperty_of_represents`, `isForeignKey_of_plan`: the shapes of the three
  kinds of columns;
* `emitEntity_table_shaped`: the table that an entity adds to a unit.
-/

namespace EntityTables

/-- The associations that are stored in the row of their entity: those with one target each, unless
the target stores a one-to-one association. -/
def Entity.rowAssociations (entity : Entity) : List Association :=
  entity.associations.filter fun association =>
    association.kind = .manyToOne || association.kind = .oneToOne && association.mapped

theorem Association.ownsForeignKey_eq (association : Association) :
    association.ownsForeignKey =
      (decide (association.kind = .manyToOne) ||
        decide (association.kind = .oneToOne) && association.mapped) := by
  unfold ownsForeignKey
  cases association.kind <;> simp

/-- The key of the table is made from the id, and its columns from the properties and then from
the associations that are stored in the row, one from each in order. -/
structure Table.MadeFrom (ofId : IdField → ColumnSpec → Prop)
    (ofProperty : Property → ColumnSpec → Prop) (ofAssociation : Association → ColumnSpec → Prop)
    (entity : Entity) (table : Table) : Prop where
  primaryKey : List.Forall₂ ofId entity.id.toList table.primaryKey.toList
  columns : ∃ properties foreignKeys, table.columns = properties ++ foreignKeys ∧
    List.Forall₂ ofProperty entity.properties properties ∧
      List.Forall₂ ofAssociation entity.rowAssociations foreignKeys

section

variable {settings : Settings} {graphs : EntityGraphs} {wrappers : List Wrapper} {entity : Entity}
  {column : ColumnSpec} {table : Table}

theorem Table.MadeFrom.imp {ofId ofId' : IdField → ColumnSpec → Prop}
    {ofProperty ofProperty' : Property → ColumnSpec → Prop}
    {ofAssociation ofAssociation' : Association → ColumnSpec → Prop}
    (hmade : table.MadeFrom ofId ofProperty ofAssociation entity)
    (hid : ∀ id column, ofId id column → ofId' id column)
    (hproperty : ∀ property column, ofProperty property column → ofProperty' property column)
    (hassociation : ∀ association column, ofAssociation association column →
      ofAssociation' association column) :
    table.MadeFrom ofId' ofProperty' ofAssociation' entity where
  primaryKey := hmade.primaryKey.imp fun _ _ => hid _ _
  columns := by
    obtain ⟨properties, foreignKeys, hcolumns, hproperties, hforeignKeys⟩ := hmade.columns
    exact ⟨properties, foreignKeys, hcolumns, hproperties.imp fun _ _ => hproperty _ _,
      hforeignKeys.imp fun _ _ => hassociation _ _⟩

/-! ## Foreign keys -/

/-- The foreign keys of an entity are those of the associations that are stored in its row. -/
theorem forall₂_foreignKeys (hplans : ∀ association ∈ entity.associations,
      ∃ plan, planOf settings graphs entity association = .ok plan) :
    List.Forall₂ (fun association column =>
        planOf settings graphs entity association = .ok (.foreignKey column))
      entity.rowAssociations (entity.foreignKeys settings graphs) := by
  apply forall₂_filter_filterMap
  · intro association hassociation hrow
    rw [← association.ownsForeignKey_eq] at hrow
    obtain ⟨plan, hplan⟩ := hplans association hassociation
    obtain ⟨column, rfl⟩ := foreignKey_of_plan hrow hplan
    exact ⟨column, by rw [hplan]; rfl, hplan⟩
  · intro association _ hrow
    rw [← association.ownsForeignKey_eq] at hrow
    rw [Option.bind_eq_none_iff]
    intro plan hplan
    rw [toOption_eq_some_iff] at hplan
    cases hforeign : plan.foreignKey? with
    | none => rfl
    | some column =>
        rw [AssociationPlan.foreignKey?_eq_some_iff.mp hforeign, planOf_eq_foreignKey_iff,
          hrow] at hplan
        exact absurd hplan.1 Bool.false_ne_true

/-- A table that represents an entity is made from the entity's members and associations, if all
of these have a plan. -/
theorem Table.Represents.madeFrom (hrepresents : table.Represents settings graphs wrappers entity)
    (hplans : ∀ association ∈ entity.associations,
      ∃ plan, planOf settings graphs entity association = .ok plan) :
    table.MadeFrom (fun id column => column.Represents settings wrappers id.member)
      (fun property column => column.Represents settings wrappers property.member)
      (fun association column =>
        planOf settings graphs entity association = .ok (.foreignKey column)) entity where
  primaryKey := by
    have hkeys := hrepresents.primaryKey
    rwa [Option.toList_map, List.forall₂_map_left_iff] at hkeys
  columns := by
    obtain ⟨properties, hproperties, hcolumns⟩ := hrepresents.columns
    rw [List.forall₂_map_left_iff] at hproperties
    exact ⟨properties, _, hcolumns, hproperties, forall₂_foreignKeys hplans⟩

/-! ## Single columns -/

/-- The column is the key for the id.  The database counts it up if the id is generated and has the
type of a whole number, which the value of a converter has not. -/
structure ColumnSpec.IsKey (id : IdField) (column : ColumnSpec) : Prop where
  name_eq : column.name = id.name
  valueType_eq : column.valueType = id.type
  columnName_eq : column.recipe.columnName = id.columnName
  primaryKey : column.recipe.primaryKey
  nullable_eq : column.recipe.nullable = false
  references_eq : column.recipe.references = none
  autoIncrement_iff : column.recipe.autoIncrement ↔
    id.generated ∧ id.converter = none ∧
      id.type.native? ∈ [some NativeType.long, some .int, some .short]

/-- The column is that of the property. -/
structure ColumnSpec.IsProperty (property : Property) (column : ColumnSpec) : Prop where
  name_eq : column.name = property.name
  valueType_eq : column.valueType = property.type
  columnName_eq : column.recipe.columnName = property.columnName
  primaryKey_eq : column.recipe.primaryKey = false
  nullable_eq : column.recipe.nullable = property.nullable
  references_eq : column.recipe.references = none
  autoIncrement_eq : column.recipe.autoIncrement = false

/-- The column is the foreign key that stores the association.  It is named after the association
and the id of the target unless a name is given. -/
structure ColumnSpec.IsForeignKey (settings : Settings) (graphs : EntityGraphs)
    (association : Association) (column : ColumnSpec) : Prop where
  name_eq : column.name = association.name
  columnName_eq : column.recipe.columnName = match association.joinColumn with
    | some name => name
    | none => association.name ++ "_" ++ variableName association.targetId.name
  primaryKey_eq : column.recipe.primaryKey = false
  nullable : column.recipe.nullable
  references_eq : ∃ target, graphs.entity? association.target = some target ∧
    column.recipe.references =
      some ⟨settings.tableObject target.name, variableName association.targetId.name⟩
  autoIncrement_eq : column.recipe.autoIncrement = false

/-- The column of a native type is that of whole numbers if the type is. -/
theorem NativeType.isIntegral_columnKind (settings : Settings) (limits : Option ColumnLimits)
    (native : NativeType) :
    (native.columnKind settings limits).isIntegral ↔ native ∈ [NativeType.long, .int, .short] := by
  cases native <;> simp [columnKind, ColumnKind.isIntegral]

/-- A member has the native type that its declared type spells; that of an id can be a key. -/
theorem Member.nativeType_eq_ok_iff {member : Member} {native : NativeType} :
    member.nativeType = .ok native ↔ member.type.native? = some native ∧
      ∀ generated, member.role = .key generated → native.isKeyType := by
  unfold nativeType
  cases member.role with
  | key generated =>
      cases member.type.native? with
      | none => simp
      | some spelled => by_cases hkey : spelled.isKeyType <;> simp [hkey] <;> grind
  | property nullable => cases member.type.native? <;> simp

theorem isKey_of_represents {id : IdField}
    (hrepresents : column.Represents settings wrappers id.member) : column.IsKey id := by
  cases hrepresents with
  | @native native hconverter hnative =>
      have hspelled : id.type.native? = some native := (Member.nativeType_eq_ok_iff.mp hnative).1
      have hconverter : id.converter = none := hconverter
      refine ⟨rfl, rfl, rfl, rfl, rfl, rfl, ?_⟩
      simp only [Member.column, Member.recipeOf, IdField.member, Bool.and_eq_true,
        NativeType.isIntegral_columnKind, hconverter, hspelled, List.mem_cons, List.not_mem_nil,
        Option.some.injEq, or_false, true_and]
  | @converted converter wrapper hconverter hfind hserves =>
      have hconverter : id.converter = some converter := hconverter
      refine ⟨rfl, rfl, rfl, rfl, rfl, rfl, ?_⟩
      simp [Member.column, Member.recipeOf, IdField.member, ColumnKind.isIntegral, hconverter]

theorem isProperty_of_represents {property : Property}
    (hrepresents : column.Represents settings wrappers property.member) :
    column.IsProperty property := by
  cases hrepresents with
  | native _ _ => exact ⟨rfl, rfl, rfl, rfl, rfl, rfl, rfl⟩
  | converted _ _ _ => exact ⟨rfl, rfl, rfl, rfl, rfl, rfl, rfl⟩

theorem isForeignKey_of_plan {association : Association}
    (hplan : planOf settings graphs entity association = .ok (.foreignKey column)) :
    column.IsForeignKey settings graphs association := by
  obtain ⟨-, target, htarget, hcolumn⟩ := planOf_eq_foreignKey_iff.mp hplan
  obtain ⟨⟨kind, valueType⟩, -, rfl⟩ := map_eq_ok_iff.mp hcolumn
  refine ⟨rfl, ?_, rfl, rfl, ⟨target, htarget, rfl⟩, rfl⟩
  simp only [Association.foreignKeyName]
  cases association.joinColumn <;> rfl

end

/-! ## Entities -/

/-- The table of an entity: its key is that of the id, if there is one, and its columns are those of
the properties and then the foreign keys of the associations that are stored in the row. -/
structure Table.Shaped (settings : Settings) (graphs : EntityGraphs) (entity : Entity)
    (table : Table) : Prop where
  objectName_eq : table.objectName = settings.tableObject entity.name
  tableName_eq : table.tableName = entity.table
  entity_eq : table.entity = entity.key
  madeFrom : table.MadeFrom ColumnSpec.IsKey ColumnSpec.IsProperty
    (ColumnSpec.IsForeignKey settings graphs) entity

namespace Run

variable {run : Run} {unit : OutputUnit} {entity : Entity} {stage : Stage}

/-- No association of an entity that emits fails. -/
theorem exists_plan (hstage : run.stageOf unit entity = .ok stage) {association : Association}
    (hassociation : association ∈ entity.associations) :
    ∃ plan, planOf run.settings run.graphs entity association = .ok plan := by
  obtain ⟨contribution, hcontribution⟩ :=
    (Draft.errors_eq_nil_iff.mp (stageOf_eq_ok_iff.mp hstage).1).2
      ⟨association, run.contribution entity association⟩
      (List.mem_map.mpr ⟨association, hassociation, rfl⟩)
  obtain ⟨plan, hplan, -⟩ := map_eq_ok_iff.mp hcontribution
  exact ⟨plan, hplan⟩

theorem shaped_of_stage (hstage : run.stageOf unit entity = .ok stage) :
    ((run.draft unit entity).table run.settings).Shaped run.settings run.graphs entity where
  objectName_eq := rfl
  tableName_eq := rfl
  entity_eq := rfl
  madeFrom := by
    have hmade := (represents_of_stage hstage).madeFrom fun _ => exists_plan hstage
    exact hmade.imp (fun _ _ => isKey_of_represents) (fun _ _ => isProperty_of_represents)
      fun _ _ => isForeignKey_of_plan

end Run

/-- An entity that emits adds its table to the unit, with the join tables that it owns behind it.
The table has a key if and only if the entity has an id, a column for each property and a foreign
key for each association that is stored in the row, and nothing else. -/
theorem emitEntity_table_shaped {graphs : EntityGraphs} {settings : Settings}
    {unit after : OutputUnit} {entity : Entity}
    (hemit : (Run.over graphs settings).emitEntity unit entity = .ok after) :
    ∃ table joinTables, table.Shaped settings graphs entity ∧
      after.declarations = unit.declarations ++ Declaration.block table joinTables := by
  obtain ⟨stage, hstage, rfl⟩ := Run.emitEntity_eq_ok_iff.mp hemit
  refine ⟨_, (Run.over graphs settings).ownedJoinTables entity, Run.shaped_of_stage hstage, ?_⟩
  rw [OutputUnit.commit, Run.stageOf_declarations hstage]
  rfl

/-- A parcel with associations of all kinds, of which three are stored in its row. -/
def parcelOfRow : Entity :=
  let id := IdField.named "Id" NativeType.long.valueType
  { Entity.named "shop.Parcel" "parcels" with
    id := some { IdField.named "number" ⟨"java.lang", "Integer"⟩ with generated := true }
    properties := [
      { Property.named "note" NativeType.string.valueType with nullable := true },
      { Property.named "state" ⟨"shop", "State"⟩ with
        columnName := "parcel_state"
        converter := some ⟨"StateConverter", NativeType.string.valueType⟩ }]
    associations := [
      ⟨"tags", "shop.Tag", .manyToMany, id, none, true, none, none⟩,
      ⟨"tag", "shop.Tag", .manyToOne, id, none, true, none, none⟩,
      ⟨"labels", "shop.Tag", .oneToMany, id, none, true, none, none⟩,
      ⟨"seal", "shop.Tag", .oneToOne, id, some "seal_tag", true, none, none⟩,
      ⟨"stamp", "shop.Tag", .oneToOne, id, none, false, some "parcel", none⟩,
      ⟨"origin", "shop.Parcel", .manyToOne, IdField.named "number" ⟨"kotlin", "Int"⟩, none, false,
        none, none⟩] }

def shopOfRows : EntityGraphs where
  graphs := [⟨"shop", [parcelOfRow, { Entity.named "shop.Tag" "tags" with
    id := some (IdField.named "Id" NativeType.long.valueType) }]⟩]
  nodup_keys := by decide
  target_mem := by decide

/-- The parcel is numbered by the database; behind its two properties stand three foreign keys. -/
theorem parcelOfRow_table_shaped :
    ∃ after, (Run.over shopOfRows {}).emitEntity { package := "shop" } parcelOfRow = .ok after ∧
      after.tables.flatMap (fun table => table.allColumns.map fun column =>
          (column.recipe.columnName, column.recipe.nullable, column.recipe.autoIncrement)) =
        [("number", false, true), ("note", true, false), ("parcel_state", false, false),
          ("tag_id", true, false), ("seal_tag", true, false), ("origin_number", true, false)] ∧
      ∃ table joinTables, table.Shaped {} shopOfRows parcelOfRow ∧
        after.declarations = Declaration.block table joinTables := by
  have hrun : ∃ after,
      (Run.over shopOfRows {}).emitEntity { package := "shop" } parcelOfRow = .ok after ∧
      after.tables.flatMap (fun table => table.allColumns.map fun column =>
          (column.recipe.columnName, column.recipe.nullable, column.recipe.autoIncrement)) =
        [("number", false, true), ("note", true, false), ("parcel_state", false, false),
          ("tag_id", true, false), ("seal_tag", true, false), ("origin_number", true, false)] :=
    ⟨_, rfl, rfl⟩
  obtain ⟨after, hemit, hcolumns⟩ := hrun
  exact ⟨after, hemit, hcolumns, emitEntity_table_shaped hemit⟩

end EntityTables
