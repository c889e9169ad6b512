import EntityTables.Proofs.Emission.Blocks

/-!
# What the columns of a table represent

The table of an entity has a key for the id, a column for each property and a foreign key for each
association that owns one.  A column represents its member in one of two ways: it is made for the
member's native type or, if the member has a converter, by a wrapper that serves the converter.
Everything in the table but the names of the wrappers can be told from the entity and the graphs.

* `ColumnSpec.Represents`, `Table.Represents`: what a column and a table are made from;
* `represents_of_outcome`: the column of a member represents it;
* `table_member`: where the column of a member stands;
* `represents_of_stage`: the table of an entity represents it;
* `Table.Represents.append`: wrappers that are added later change nothing.
-/

namespace EntityTables

/-- Elements that are kept have a value, in order, and the others have none. -/
theorem forall₂_filter_filterMap {α β : Type} {R : α → β → Prop} {p : α → Bool}
    {f : α → Option β} {elements : List α}
    (hkept : ∀ element ∈ elements, p element → ∃ value, f element = some value ∧ R element value)
    (hdropped : ∀ element ∈ elements, p element = false → f element = none) :
    List.Forall₂ R (elements.filter p) (elements.filterMap f) := by
  induction elements with
  | nil => exact .nil
  | cons element elements ih =>
      obtain ⟨hfirst, hkept⟩ := List.forall_mem_cons.mp hkept
      obtain ⟨hnone, hdropped⟩ := List.forall_mem_cons.mp hdropped
      cases hp : p element with
      | false =>
          rw [List.filter_cons_of_neg (by simp [hp]), List.filterMap_cons_none (hnone hp)]
          exact ih hkept hdropped
      | true =>
          obtain ⟨value, hvalue, hrelated⟩ := hfirst hp
          rw [List.filter_cons_of_pos hp, List.filterMap_cons_some hvalue]
          exact .cons hrelated (ih hkept hdropped)

/-- The column represents the member, with wrappers that are called by their names. -/
inductive ColumnSpec.Represents (settings : Settings) (wrappers : List Wrapper) (member : Member) :
    ColumnSpec → Prop
  | native {native : NativeType} (hconverter : member.converter = none)
      (hnative : member.nativeType = .ok native) :
      Represents settings wrappers member
        (member.column (member.recipeOf (native.columnKind settings member.limits)))
  | converted {converter : Converter} {wrapper : Wrapper}
      (hconverter : member.converter = some converter)
      (hfind : wrappers.find? (·.name = wrapper.name) = some wrapper)
      (hserves : wrapper.Serves member converter) :
      Represents settings wrappers member
        (member.column (member.recipeOf (.converted wrapper.name)))

def AssociationPlan.foreignKey? : AssociationPlan → Option ColumnSpec
  | .foreignKey column => some column
  | .joinTable _ | .nothing => none

theorem AssociationPlan.foreignKey?_eq_some_iff {plan : AssociationPlan} {column : ColumnSpec} :
    plan.foreignKey? = some column ↔ plan = .foreignKey column := by
  cases plan <;> simp [foreignKey?]

/-- The foreign keys of an entity, in the order of its associations. -/
def Entity.foreignKeys (settings : Settings) (graphs : EntityGraphs) (entity : Entity) :
    List ColumnSpec :=
  entity.associations.filterMap fun association =>
    (planOf settings graphs entity association).toOption.bind (·.foreignKey?)

theorem Entity.mem_foreignKeys_iff {settings : Settings} {graphs : EntityGraphs} {entity : Entity}
    {column : ColumnSpec} :
    column ∈ entity.foreignKeys settings graphs ↔ ∃ association ∈ entity.associations,
      planOf settings graphs entity association = .ok (.foreignKey column) := by
  simp only [foreignKeys, List.mem_filterMap, Option.bind_eq_some_iff, toOption_eq_some_iff,
    AssociationPlan.foreignKey?_eq_some_iff, exists_eq_right]

/-- The table represents the entity: its key represents the id, its columns represent the
properties in order, and behind them stand the foreign keys. -/
structure Table.Represents (settings : Settings) (graphs : EntityGraphs) (wrappers : List Wrapper)
    (entity : Entity) (table : Table) : Prop where
  objectName_eq : table.objectName = settings.tableObject entity.name
  tableName_eq : table.tableName = entity.table
  entity_eq : table.entity = entity.key
  primaryKey : List.Forall₂ (ColumnSpec.Represents settings wrappers)
    (entity.id.map IdField.member).toList table.primaryKey.toList
  columns : ∃ columns, List.Forall₂ (ColumnSpec.Represents settings wrappers)
      (entity.properties.map Property.member) columns ∧
    table.columns = columns ++ entity.foreignKeys settings graphs

variable {settings : Settings} {graphs : EntityGraphs} {wrappers : List Wrapper} {entity : Entity}
  {member : Member} {column : ColumnSpec} {table : Table}

/-! ## More wrappers -/

theorem ColumnSpec.Represents.append (hrepresents : column.Represents settings wrappers member)
    (later : List Wrapper) : column.Represents settings (wrappers ++ later) member := by
  cases hrepresents with
  | native hconverter hnative => exact .native hconverter hnative
  | converted hconverter hfind hserves =>
      exact .converted hconverter (by rw [List.find?_append, hfind, Option.some_or]) hserves

theorem Table.Represents.append (hrepresents : table.Represents settings graphs wrappers entity)
    (later : List Wrapper) : table.Represents settings graphs (wrappers ++ later) entity where
  objectName_eq := hrepresents.objectName_eq
  tableName_eq := hrepresents.tableName_eq
  entity_eq := hrepresents.entity_eq
  primaryKey := hrepresents.primaryKey.imp fun _ _ hcolumn => hcolumn.append later
  columns := by
    obtain ⟨columns, hproperties, hcolumns⟩ := hrepresents.columns
    exact ⟨columns, hproperties.imp fun _ _ hcolumn => hcolumn.append later, hcolumns⟩

/-- The key of a table that represents an entity represents the entity's id. -/
theorem Table.Represents.exists_key (hrepresents : table.Represents settings graphs wrappers entity)
    {id : IdField} (hid : entity.id = some id) :
    ∃ key, table.primaryKey = some key ∧ key.Represents settings wrappers id.member := by
  have hkeys := hrepresents.primaryKey
  rw [hid] at hkeys
  cases hkey : table.primaryKey with
  | none => simp [hkey] at hkeys
  | some key => exact ⟨key, rfl, by simpa [hkey] using hkeys⟩

theorem Draft.primaryKey_toList (settings : Settings) (draft : Draft) :
    (draft.table settings).primaryKey.toList =
      draft.key.toList.filterMap (·.column.toOption) := by
  rw [Draft.table]
  cases draft.key with
  | none => rfl
  | some outcome => cases hvalue : outcome.column.toOption <;> simp [hvalue]

namespace Run

variable {run : Run} {unit : OutputUnit} {entityName : String} {stage after : Stage}
  {outcome : MemberOutcome}

/-! ## Members -/

/-- The column of a member without a converter is made for its native type. -/
theorem Placed.native_column (placed : Placed run unit entityName stage member (after, outcome))
    (hconverter : member.converter = none) (hcolumn : outcome.column = .ok column) :
    ∃ native, member.nativeType = .ok native ∧
      column = member.column (member.recipeOf (native.columnKind run.settings member.limits)) := by
  cases placed with
  | native _ =>
      obtain ⟨recipe, hrecipe, rfl⟩ := map_eq_ok_iff.mp hcolumn
      obtain ⟨kind, hkind, rfl⟩ := map_eq_ok_iff.mp hrecipe
      obtain ⟨native, hnative, rfl⟩ := map_eq_ok_iff.mp hkind
      exact ⟨native, hnative, rfl⟩
  | unsupported hsome _ => simp [hconverter] at hsome
  | wrapped hsome _ _ => simp [hconverter] at hsome

/-- The column of an id or a property represents it. -/
theorem represents_of_outcome
    (houtcome : outcome ∈ (run.draft unit entity).key.toList ++ (run.draft unit entity).properties)
    (hcolumn : outcome.column = .ok column) :
    column.Represents run.settings (unit.wrappers ++ (run.draft unit entity).wrappers)
      outcome.member := by
  obtain ⟨after, hplaces, hwrappers⟩ := draft_places run unit entity
  obtain ⟨before, between, -, placed, -⟩ := exists_placed hplaces houtcome
  cases hconverter : outcome.member.converter with
  | none =>
      obtain ⟨native, hnative, rfl⟩ := placed.native_column hconverter hcolumn
      exact .native hconverter hnative
  | some converter =>
      obtain ⟨-, wrapper, hkind, hfind, hserves⟩ :=
        placeMembers_calls hplaces houtcome hcolumn hconverter
      obtain ⟨kind, rfl⟩ := placed.column_eq hcolumn
      obtain rfl : kind = .converted wrapper.name := by simpa [Member.column] using hkind
      rw [← hwrappers]
      exact .converted hconverter hfind hserves

theorem forall₂_columns {outcomes : List MemberOutcome}
    (hcolumns : ∀ outcome ∈ outcomes, ∃ column, outcome.column = .ok column ∧
      column.Represents settings wrappers outcome.member) :
    List.Forall₂ (ColumnSpec.Represents settings wrappers) (outcomes.map (·.member))
      (outcomes.filterMap (·.column.toOption)) := by
  have hkept : ∀ outcome ∈ outcomes, true → ∃ column, outcome.column.toOption = some column ∧
      column.Represents settings wrappers outcome.member := by
    intro outcome houtcome _
    obtain ⟨column, hcolumn, hrepresents⟩ := hcolumns outcome houtcome
    exact ⟨column, toOption_eq_some_iff.mpr hcolumn, hrepresents⟩
  -- no outcome is left out
  have hall := forall₂_filter_filterMap (p := fun _ => true) hkept (by simp)
  rwa [List.filter_true, ← List.forall₂_map_left_iff] at hall

/-! ## Entities -/

/-- An association contributes the foreign key that is planned for it. -/
theorem column?_contribution (run : Run) (entity : Entity) (association : Association) :
    (run.contribution entity association).toOption.bind (·.column?) =
      (planOf run.settings run.graphs entity association).toOption.bind (·.foreignKey?) := by
  rw [contribution]
  cases planOf run.settings run.graphs entity association with
  | error error => rfl
  | ok plan =>
      cases plan with
      | foreignKey column => rfl
      | nothing => rfl
      | joinTable table =>
          simp only [Except.map, Except.toOption, Option.bind_some, AssociationPlan.foreignKey?]
          split <;> rfl

theorem draft_columns (run : Run) (unit : OutputUnit) (entity : Entity) :
    (run.draft unit entity).columns =
      (run.draft unit entity).properties.filterMap (·.column.toOption) ++
        entity.foreignKeys run.settings run.graphs := by
  have hforeign : (run.draft unit entity).associations.filterMap (fun outcome =>
      outcome.contribution.toOption.bind (·.column?)) =
        entity.foreignKeys run.settings run.graphs := by
    simp only [draft, List.filterMap_map, Function.comp_def, column?_contribution,
      Entity.foreignKeys]
  rw [Draft.columns, hforeign]

/-- The columns of the table start with those of the entity's members, in order. -/
theorem table_member (hstage : run.stageOf unit entity = .ok stage)
    {index : Nat}
    (hmember : entity.members[index]? = some member) :
    ∃ outcome ∈ (run.draft unit entity).key.toList ++ (run.draft unit entity).properties,
      ∃ column, outcome.member = member ∧ outcome.column = .ok column ∧
        ((run.draft unit entity).table run.settings).allColumns[index]? = some column := by
  obtain ⟨after, hplaces, -⟩ := draft_places run unit entity
  have houtcomes := congrArg (·[index]?) (placeMembers_outcomes hplaces)
  simp only [List.getElem?_map, hmember, Option.map_eq_some_iff] at houtcomes
  obtain ⟨outcome, houtcome, hsame⟩ := houtcomes
  have hmem := List.mem_of_getElem? houtcome
  obtain ⟨column, hcolumn⟩ := outcome_column hstage hmem
  have hplaced : (((run.draft unit entity).key.toList ++
      (run.draft unit entity).properties).filterMap (·.column.toOption))[index]? = some column := by
    rw [getElem?_filterMap_of_isSome, houtcome, Option.bind_some, hcolumn, Except.toOption]
    intro other hother
    obtain ⟨value, hvalue⟩ := outcome_column hstage hother
    rw [hvalue, Except.toOption, Option.isSome_some]
  refine ⟨outcome, hmem, column, hsame, hcolumn, ?_⟩
  rw [Table.allColumns, Draft.primaryKey_toList, Draft.table, draft_columns, ← List.append_assoc,
    ← List.filterMap_append, List.getElem?_append_left (List.getElem?_eq_some_iff.mp hplaced).1]
  exact hplaced

/-- The table that an entity contributes represents it. -/
theorem represents_of_stage (hstage : run.stageOf unit entity = .ok stage) :
    ((run.draft unit entity).table run.settings).Represents run.settings run.graphs
      (unit.commit stage).wrappers entity := by
  have hwrappers : (unit.commit stage).wrappers =
      unit.wrappers ++ (run.draft unit entity).wrappers := by
    rw [(stageOf_eq_ok_iff.mp hstage).2, OutputUnit.commit, Draft.stage]
  have hcolumns : ∀ outcome ∈ (run.draft unit entity).key.toList ++
        (run.draft unit entity).properties,
      ∃ column, outcome.column = .ok column ∧
        column.Represents run.settings (unit.commit stage).wrappers outcome.member := by
    intro outcome houtcome
    obtain ⟨column, hcolumn⟩ := outcome_column hstage houtcome
    exact ⟨column, hcolumn, hwrappers ▸ represents_of_outcome houtcome hcolumn⟩
  refine ⟨rfl, rfl, rfl, ?_, _, ?_, draft_columns run unit entity⟩
  · rw [← draft_key_member run unit entity, Option.toList_map, Draft.primaryKey_toList]
    apply forall₂_columns
    intro outcome houtcome
    exact hcolumns outcome (List.mem_append_left _ houtcome)
  · rw [← draft_property_members run unit entity]
    apply forall₂_columns
    intro outcome houtcome
    exact hcolumns outcome (List.mem_append_right _ houtcome)

end Run
end EntityTables
