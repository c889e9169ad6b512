import EntityTables.Proofs.Generation.Units

/-!
# The wrappers of a unit

Names of wrappers are chosen against everything that is bound at the time: the wrappers of the
unit so far and those of the stage.  What makes the result sound is an invariant of the unit,
`OutputUnit.WellWrapped`: its wrappers have different names, and each of them is called.  A
commit preserves it, and a column that calls a wrapper calls the same wrapper ever after.

* `wellWrapped_commit`: an entity preserves the invariant;
* `servesConverters_of_stage`: the table of an entity calls the right wrappers;
* `generatePackage_wrappers_sound`: the wrappers of a package.
-/

namespace EntityTables

/-- In the table of an entity, the column of every member with a converter is made by a wrapper
that serves the member. -/
structure Table.ServesConverters (table : Table) (wrappers : List Wrapper) (entity : Entity) :
    Prop where
  key : ∀ (id : IdField) (converter : Converter),
    entity.id = some id → id.converter = some converter →
      ∃ column, table.primaryKey = some column ∧
        column.CallsWrapper wrappers id.member converter
  property : ∀ (index : Nat) (property : Property) (converter : Converter),
    entity.properties[index]? = some property → property.converter = some converter →
      ∃ column, table.columns[index]? = some column ∧
        column.CallsWrapper wrappers property.member converter

theorem Table.ServesConverters.append {table : Table} {wrappers : List Wrapper}
    {entity : Entity} (hserves : table.ServesConverters wrappers entity) (later : List Wrapper) :
    table.ServesConverters (wrappers ++ later) entity where
  key id converter hid hconverter := by
    obtain ⟨column, hcolumn, hcalls⟩ := hserves.key id converter hid hconverter
    exact ⟨column, hcolumn, hcalls.append later⟩
  property index property converter hproperty hconverter := by
    obtain ⟨column, hcolumn, hcalls⟩ :=
      hserves.property index property converter hproperty hconverter
    exact ⟨column, hcolumn, hcalls.append later⟩

/-- The wrappers have different names, and every wrapper is called by a column. -/
structure OutputUnit.WellWrapped (unit : OutputUnit) : Prop where
  nodup : (unit.wrappers.map (·.name)).Nodup
  called : ∀ wrapper ∈ unit.wrappers, ∃ column ∈ unit.columns,
    column.recipe.kind = .converted wrapper.name

theorem OutputUnit.wellWrapped_empty (package : String) :
    OutputUnit.WellWrapped { package } where
  nodup := List.nodup_nil
  called _ hwrapper := by simp at hwrapper

theorem OutputUnit.columns_commit (unit : OutputUnit) (stage : Stage) :
    (unit.commit stage).columns =
      unit.columns ++ stage.declarations.flatMap Declaration.columns :=
  List.flatMap_append

namespace Run

variable {run : Run} {unit : OutputUnit} {entity : Entity} {stage : Stage}

/-! ## One entity -/

/-- The wrappers behind a commit are those bound when the last member was placed. -/
theorem wrappers_commit (hstage : run.stageOf unit entity = .ok stage) :
    ∃ after, run.placeMembers unit entity.name {} entity.members =
        (after, (run.draft unit entity).key.toList ++ (run.draft unit entity).properties) ∧
      after.wrappers = stage.wrappers ∧
      (unit.commit stage).wrappers = unit.boundWrappers after := by
  obtain ⟨after, hplaces, hwrappers⟩ := draft_places run unit entity
  have hafter : after.wrappers = stage.wrappers := by
    rw [hwrappers, (stageOf_eq_ok_iff.mp hstage).2, Draft.stage]
  exact ⟨after, hplaces, hafter, by rw [OutputUnit.commit, OutputUnit.boundWrappers, hafter]⟩

/-- The table of an entity calls the wrappers that its converters ask for. -/
theorem servesConverters_of_stage (hstage : run.stageOf unit entity = .ok stage) :
    ((run.draft unit entity).table run.settings).ServesConverters
      (unit.commit stage).wrappers entity := by
  obtain ⟨after, hplaces, _, hwrappers⟩ := wrappers_commit hstage
  rw [hwrappers]
  constructor
  · intro id converter hid hconverter
    obtain ⟨outcome, houtcome, column, hmember, hcolumn, hkey⟩ := table_primaryKey hstage hid
    refine ⟨column, hkey, ?_⟩
    rw [← hmember]
    exact placeMembers_calls hplaces houtcome hcolumn (hmember ▸ hconverter)
  · intro index property converter hproperty hconverter
    obtain ⟨outcome, houtcome, column, hmember, hcolumn, hplace⟩ :=
      table_property hstage hproperty
    refine ⟨column, hplace, ?_⟩
    rw [← hmember]
    exact placeMembers_calls hplaces houtcome hcolumn (hmember ▸ hconverter)

/-- An entity that emits keeps the names of wrappers different and every wrapper called. -/
theorem wellWrapped_commit (hunit : unit.WellWrapped)
    (hstage : run.stageOf unit entity = .ok stage) : (unit.commit stage).WellWrapped := by
  obtain ⟨after, hplaces, hafter, hwrappers⟩ := wrappers_commit hstage
  constructor
  · rw [hwrappers]
    exact placeMembers_nodup hplaces (by simpa using hunit.nodup)
  · intro wrapper hwrapper
    rw [OutputUnit.columns_commit]
    rcases List.mem_append.mp hwrapper with hold | hnew
    · obtain ⟨column, hcolumn, hkind⟩ := hunit.called wrapper hold
      exact ⟨column, List.mem_append_left _ hcolumn, hkind⟩
    -- a wrapper of the stage is called by a member of the entity, a wrapper of the unit by an
    -- older column
    · rcases placeMembers_called hplaces (hafter ▸ hnew) with hnone |
        ⟨outcome, houtcome, column, hcolumn, hkind⟩
      · simp at hnone
      · refine ⟨column, List.mem_append_right _ ?_, hkind⟩
        rw [stageOf_declarations hstage, List.flatMap_cons]
        exact List.mem_append_left _ (Draft.mem_allColumns houtcome hcolumn)

end Run

/-! ## A package -/

open Run in
/-- The wrappers of a package have different names, the column of every member with a converter
calls the wrapper that the converter asks for, and no wrapper is there without a column that
calls it. -/
theorem generatePackage_wrappers_sound {graphs : EntityGraphs} {package : String}
    {settings : Settings} {unit : OutputUnit}
    (hunit : generatePackage graphs package settings = .ok unit) :
    (unit.wrappers.map (·.name)).Nodup ∧
      (∀ entity ∈ graphs.entities, entity.package = package →
        ∃ table, unit.tables.filter (·.entity = entity.key) = [table] ∧
          table.ServesConverters unit.wrappers entity) ∧
      ∀ wrapper ∈ unit.wrappers, ∃ column ∈ unit.columns,
        column.recipe.kind = .converted wrapper.name := by
  have hemits := unitOfPackage_eq_ok_iff.mp hunit
  have hsound : unit.WellWrapped := hemits.invariant (fun _ _ _ => wellWrapped_commit)
    (OutputUnit.wellWrapped_empty package)
  refine ⟨hsound.nodup, ?_, hsound.called⟩
  intro entity hentity hpackage
  obtain ⟨before, stage, hstage, hextends, htable⟩ :=
    exists_table hunit (EntityGraphs.mem_entitiesIn.mpr ⟨hentity, hpackage⟩)
  refine ⟨_, htable, ?_⟩
  -- what the entity's columns call was bound when the entity was committed, and is still there
  obtain ⟨later, hlater⟩ := hextends.wrappers_prefix
  rw [← hlater]
  exact (servesConverters_of_stage hstage).append later

/-- Two entities of one package with ids of one name, each with a converter of its own. -/
def shopOfConverters : EntityGraphs where
  graphs :=
    let orderId : IdField :=
      { IdField.named "id" ⟨"shop", "OrderId"⟩ with
        converter := some ⟨"OrderIdConverter", NativeType.long.valueType⟩ }
    let itemId : IdField :=
      { IdField.named "id" ⟨"shop", "ItemId"⟩ with
        converter := some ⟨"ItemIdConverter", NativeType.long.valueType⟩ }
    [⟨"shop", [{ Entity.named "shop.Order" "orders" with id := some orderId },
      { Entity.named "shop.Item" "items" with id := some itemId }]⟩]
  nodup_keys := by decide
  target_mem := by decide

/-- The second wrapper is named after its entity, and each id calls its own wrapper. -/
theorem shopOfConverters_wrappers_sound :
    ∃ unit, generatePackage shopOfConverters "shop" {} = .ok unit ∧
      unit.wrappers.map (·.name) = ["id", "itemId"] ∧ (unit.wrappers.map (·.name)).Nodup ∧
      ∀ entity ∈ shopOfConverters.entities, entity.package = "shop" →
        ∃ table, unit.tables.filter (·.entity = entity.key) = [table] ∧
          table.ServesConverters unit.wrappers entity := by
  have hrun : ∃ unit, generatePackage shopOfConverters "shop" {} = .ok unit ∧
      unit.wrappers.map (·.name) = ["id", "itemId"] := ⟨_, rfl, rfl⟩
  obtain ⟨unit, hunit, hnames⟩ := hrun
  obtain ⟨hnodup, hserves, _⟩ := generatePackage_wrappers_sound hunit
  exact ⟨unit, hunit, hnames, hnodup, hserves⟩

end EntityTables
