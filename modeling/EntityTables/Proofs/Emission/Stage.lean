import EntityTables.Proofs.Emission.Members

/-!
# The stage of an entity

An entity that emits without an error contributes its table, then the join tables it owns, and
the wrappers of its members.  The table has the key and one column for each property, each the
column of its own member; the join tables do not depend on the unit at all.

* `stageOf_eq_ok_iff`: an entity has a stage if and only if its draft is free of errors;
* `stageOf_declarations`: the declarations of a stage;
* `draft_places`: the members of a draft are placed one after the other, from an empty stage;
* `table_primaryKey`, `table_property`: the column of each member.
-/

namespace EntityTables

theorem errorOf?_eq_none_iff {ε α : Type} {result : Except ε α} :
    errorOf? result = none ↔ ∃ value, result = .ok value := by
  cases result <;> simp [errorOf?]

theorem errorOf?_eq_some_iff {ε α : Type} {result : Except ε α} {error : ε} :
    errorOf? result = some error ↔ result = .error error := by
  cases result <;> simp [errorOf?]

theorem errorOf?_map {ε α β : Type} (f : α → β) (result : Except ε α) :
    errorOf? (result.map f) = errorOf? result := by
  cases result <;> rfl

theorem toOption_eq_some_iff {ε α : Type} {result : Except ε α} {value : α} :
    result.toOption = some value ↔ result = .ok value := by
  cases result <;> simp [Except.toOption]

theorem Contribution.column?_eq_some_iff {contribution : Contribution} {column : ColumnSpec} :
    contribution.column? = some column ↔ contribution = .foreignKey column := by
  cases contribution <;> simp [Contribution.column?]

theorem Contribution.joinTable?_eq_some_iff {contribution : Contribution} {table : JoinTable} :
    contribution.joinTable? = some table ↔ contribution = .joinTable table := by
  cases contribution <;> simp [Contribution.joinTable?]

/-- Nothing is left out of a list whose elements all have a value, so positions are kept. -/
theorem getElem?_filterMap_of_isSome {α β : Type} {f : α → Option β} {elements : List α}
    (hsome : ∀ element ∈ elements, (f element).isSome) (index : Nat) :
    (elements.filterMap f)[index]? = elements[index]?.bind f := by
  induction elements generalizing index with
  | nil => simp
  | cons element elements ih =>
      obtain ⟨value, hvalue⟩ := Option.isSome_iff_exists.mp (hsome element List.mem_cons_self)
      rw [List.filterMap_cons_some hvalue]
      cases index with
      | zero => simp [hvalue]
      | succ index =>
          simp only [List.getElem?_cons_succ]
          exact ih (fun other hother => hsome other (List.mem_cons_of_mem _ hother)) index

namespace Draft

variable {draft : Draft}

theorem errors_eq_nil_iff :
    draft.errors = [] ↔
      (∀ outcome ∈ draft.key.toList ++ draft.properties, ∃ column, outcome.column = .ok column) ∧
        ∀ outcome ∈ draft.associations,
          ∃ contribution, outcome.contribution = .ok contribution := by
  simp only [errors, List.append_eq_nil_iff, List.filterMap_eq_nil_iff, errorOf?_eq_none_iff]

/-- The columns of all members stand in the table. -/
theorem mem_allColumns {settings : Settings} {outcome : MemberOutcome}
    (houtcome : outcome ∈ draft.key.toList ++ draft.properties) {column : ColumnSpec}
    (hcolumn : outcome.column = .ok column) : column ∈ (draft.table settings).allColumns := by
  have hvalue : outcome.column.toOption = some column := by rw [hcolumn, Except.toOption]
  rcases List.mem_append.mp houtcome with hkey | hproperty
  · refine List.mem_append_left _ (Option.mem_toList.mpr ?_)
    rw [table, Option.mem_toList.mp hkey, Option.bind_some, hvalue]
  · exact List.mem_append_right _ (List.mem_append_left _
      (List.mem_filterMap.mpr ⟨outcome, hproperty, hvalue⟩))

/-- A column of the table is that of a member, or a foreign key that an association
contributes. -/
theorem of_mem_allColumns {settings : Settings} {column : ColumnSpec}
    (hcolumn : column ∈ (draft.table settings).allColumns) :
    (∃ outcome ∈ draft.key.toList ++ draft.properties, outcome.column = .ok column) ∨
      ∃ outcome ∈ draft.associations, outcome.contribution = .ok (.foreignKey column) := by
  rcases List.mem_append.mp hcolumn with hkey | hcolumn
  · obtain ⟨outcome, houtcome, hvalue⟩ := Option.bind_eq_some_iff.mp (Option.mem_toList.mp hkey)
    exact .inl ⟨outcome, List.mem_append_left _ (Option.mem_toList.mpr houtcome),
      toOption_eq_some_iff.mp hvalue⟩
  · rcases List.mem_append.mp hcolumn with hproperty | hforeign
    · obtain ⟨outcome, houtcome, hvalue⟩ := List.mem_filterMap.mp hproperty
      exact .inl ⟨outcome, List.mem_append_right _ houtcome, toOption_eq_some_iff.mp hvalue⟩
    · obtain ⟨outcome, houtcome, hvalue⟩ := List.mem_filterMap.mp hforeign
      obtain ⟨contribution, hcontribution, hvalue⟩ := Option.bind_eq_some_iff.mp hvalue
      refine .inr ⟨outcome, houtcome, ?_⟩
      rw [toOption_eq_some_iff.mp hcontribution, Contribution.column?_eq_some_iff.mp hvalue]

end Draft

namespace Run

variable {run : Run} {unit : OutputUnit} {entity : Entity} {stage : Stage}

/-- The join tables that an entity emits into whatever unit. -/
def ownedJoinTables (run : Run) (entity : Entity) : List JoinTable :=
  entity.associations.filterMap fun association =>
    (run.contribution entity association).toOption.bind (·.joinTable?)

theorem draft_joinTables (run : Run) (unit : OutputUnit) (entity : Entity) :
    (run.draft unit entity).joinTables = run.ownedJoinTables entity := by
  simp only [Draft.joinTables, draft, List.filterMap_map, ownedJoinTables, Function.comp_def]

/-! ## The members of a draft -/

private theorem draft_key_toList (run : Run) (unit : OutputUnit) (entity : Entity) :
    (run.draft unit entity).key.toList =
      (run.placeMembers unit entity.name {} (entity.id.map IdField.member).toList).2 := by
  simp only [draft]
  cases entity.id with
  | none => rfl
  | some id => rfl

/-- The members of an entity are placed one after the other, from an empty stage. -/
theorem draft_places (run : Run) (unit : OutputUnit) (entity : Entity) :
    ∃ after, run.placeMembers unit entity.name {} entity.members =
        (after, (run.draft unit entity).key.toList ++ (run.draft unit entity).properties) ∧
      after.wrappers = (run.draft unit entity).wrappers := by
  rw [Entity.members, placeMembers_append, ← draft_key_toList]
  exact ⟨_, rfl, rfl⟩

theorem draft_key_member (run : Run) (unit : OutputUnit) (entity : Entity) :
    (run.draft unit entity).key.map (·.member) = entity.id.map IdField.member := by
  have hmembers : (run.draft unit entity).key.toList.map (·.member) =
      (entity.id.map IdField.member).toList :=
    draft_key_toList run unit entity ▸ placeMembers_outcomes rfl
  rw [← Option.toList_map] at hmembers
  simpa only [Option.head?_toList] using congrArg List.head? hmembers

/-- The id of an entity has an outcome. -/
theorem exists_key_outcome (run : Run) (unit : OutputUnit) {id : IdField}
    (hid : entity.id = some id) :
    ∃ outcome, (run.draft unit entity).key = some outcome ∧ outcome.member = id.member := by
  have hmember := draft_key_member run unit entity
  rw [hid, Option.map_some, Option.map_eq_some_iff] at hmember
  exact hmember

theorem draft_property_members (run : Run) (unit : OutputUnit) (entity : Entity) :
    (run.draft unit entity).properties.map (·.member) =
      entity.properties.map Property.member :=
  placeMembers_outcomes rfl

/-! ## The stage -/

theorem stageOf_eq_ok_iff :
    run.stageOf unit entity = .ok stage ↔
      (run.draft unit entity).errors = [] ∧ stage = (run.draft unit entity).stage run.settings := by
  simp only [stageOf, List.isEmpty_iff]
  split
  · rename_i hclean
    simp [hclean, eq_comm]
  · rename_i hfails
    simp [hfails]

theorem stageOf_declarations (hstage : run.stageOf unit entity = .ok stage) :
    stage.declarations = .table ((run.draft unit entity).table run.settings) ::
      (run.ownedJoinTables entity).map .joinTable := by
  rw [(stageOf_eq_ok_iff.mp hstage).2, Draft.stage, draft_joinTables]

theorem tables_commit (hstage : run.stageOf unit entity = .ok stage) :
    (unit.commit stage).tables =
      unit.tables ++ [(run.draft unit entity).table run.settings] := by
  simp only [OutputUnit.tables, OutputUnit.commit, stageOf_declarations hstage,
    List.filterMap_append, List.filterMap_cons, Declaration.table?, List.filterMap_map,
    Function.comp_def, List.filterMap_none]

theorem joinTables_commit (hstage : run.stageOf unit entity = .ok stage) :
    (unit.commit stage).joinTables = unit.joinTables ++ run.ownedJoinTables entity := by
  simp only [OutputUnit.joinTables, OutputUnit.commit, stageOf_declarations hstage,
    List.filterMap_append, List.filterMap_cons, Declaration.joinTable?, List.filterMap_map,
    Function.comp_def, List.filterMap_some]

/-! ## The columns of the table -/

theorem outcome_column (hstage : run.stageOf unit entity = .ok stage) {outcome : MemberOutcome}
    (houtcome : outcome ∈ (run.draft unit entity).key.toList ++
      (run.draft unit entity).properties) :
    ∃ column, outcome.column = .ok column :=
  (Draft.errors_eq_nil_iff.mp (stageOf_eq_ok_iff.mp hstage).1).1 outcome houtcome

/-- The key of the table is the column of the entity's id. -/
theorem table_primaryKey (hstage : run.stageOf unit entity = .ok stage) {id : IdField}
    (hid : entity.id = some id) :
    ∃ outcome ∈ (run.draft unit entity).key.toList ++ (run.draft unit entity).properties,
      ∃ column, outcome.member = id.member ∧ outcome.column = .ok column ∧
        ((run.draft unit entity).table run.settings).primaryKey = some column := by
  obtain ⟨outcome, hkey, hmember⟩ := exists_key_outcome run unit hid
  have hmem : outcome ∈ (run.draft unit entity).key.toList ++
      (run.draft unit entity).properties :=
    List.mem_append_left _ (Option.mem_toList.mpr hkey)
  obtain ⟨column, hcolumn⟩ := outcome_column hstage hmem
  refine ⟨outcome, hmem, column, hmember, hcolumn, ?_⟩
  simp only [Draft.table, hkey, Option.bind_some, hcolumn, Except.toOption]

/-- The columns of the table start with the columns of the entity's properties, in order. -/
theorem table_property (hstage : run.stageOf unit entity = .ok stage) {index : Nat}
    {property : Property} (hproperty : entity.properties[index]? = some property) :
    ∃ outcome ∈ (run.draft unit entity).key.toList ++ (run.draft unit entity).properties,
      ∃ column, outcome.member = property.member ∧ outcome.column = .ok column ∧
        ((run.draft unit entity).table run.settings).columns[index]? = some column := by
  have hmember := congrArg (·[index]?) (draft_property_members run unit entity)
  simp only [List.getElem?_map, hproperty, Option.map_some, Option.map_eq_some_iff] at hmember
  obtain ⟨outcome, houtcome, hmember⟩ := hmember
  have hmem := List.mem_append_right (run.draft unit entity).key.toList
    (List.mem_of_getElem? houtcome)
  obtain ⟨column, hcolumn⟩ := outcome_column hstage hmem
  -- no property fails, so no column is left out in front of this one
  have hplaced : ((run.draft unit entity).properties.filterMap (·.column.toOption))[index]? =
      some column := by
    rw [getElem?_filterMap_of_isSome, houtcome, Option.bind_some, hcolumn, Except.toOption]
    intro other hother
    obtain ⟨value, hvalue⟩ := outcome_column hstage (List.mem_append_right _ hother)
    rw [hvalue, Except.toOption, Option.isSome_some]
  refine ⟨outcome, hmem, column, hmember, hcolumn, ?_⟩
  rw [Draft.table, Draft.columns, List.getElem?_append_left
    (List.getElem?_eq_some_iff.mp hplaced).1]
  exact hplaced

end Run
end EntityTables
