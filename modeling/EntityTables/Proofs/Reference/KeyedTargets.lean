import EntityTables.Proofs.Generation.Report
import EntityTables.Proofs.Reference.Keys

/-!
# Whether references are to tables with a key

Ids are optional, and an association carries a copy of the id of its target whether or not the
target has one.  So of the entities that a run refers to, the sources of join tables are known to
have an id, since their join tables are made with it, and the others need not have one: their
tables are referred to by a key that they do not declare.

* `mem_errors_missingId_iff`, `exists_missingId_iff`: which missing ids a run reports;
* `hasKeyIn_iff`: the table of an entity has a key if and only if the entity has an id;
* `hasKeyIn_of_source`: the source of a join table has one;
* `generateAll_references_keyed_iff`: when all references of a run are to tables with a key.
-/

namespace EntityTables

/-- The table of the entity, the only one among all units, has a key. -/
def Entity.HasKeyIn (units : List OutputUnit) (entity : Entity) : Prop :=
  ∃ table, (units.flatMap (·.tables)).filter (·.entity = entity.key) = [table] ∧
    table.primaryKey.isSome

/-- Every column with a reference refers to some entity, and every entity that it refers to has a
table with a key. -/
def ReferencesKeyed (graphs : EntityGraphs) (settings : Settings) (units : List OutputUnit) :
    Prop :=
  ∀ unit ∈ units, ∀ column ∈ unit.columns, ∀ ref, column.recipe.references = some ref →
    (∃ target, unit.RefersTo graphs settings column target) ∧
      ∀ target, unit.RefersTo graphs settings column target → target.HasKeyIn units

namespace EntityGraphs

/-- The target of every association that needs its table has an id. -/
def TargetsHaveIds (graphs : EntityGraphs) : Prop :=
  ∀ entity ∈ graphs.entities, ∀ association ∈ entity.associations, association.needsTarget →
    ((graphs.entity? association.target).bind (·.id)).isSome

instance (graphs : EntityGraphs) : Decidable graphs.TargetsHaveIds :=
  inferInstanceAs (Decidable (∀ entity ∈ graphs.entities, ∀ association ∈ entity.associations,
    association.needsTarget → ((graphs.entity? association.target).bind (·.id)).isSome))

end EntityGraphs

section

variable {graphs : EntityGraphs} {settings : Settings} {entity : Entity}

/-! ## Missing ids that are reported -/

/-- The join table of an association cannot be built if the association's own entity has no id;
nothing else fails for want of an id. -/
theorem planOf_eq_missingId_iff {association : Association} {name : String} {target : Entity}
    (htarget : graphs.entity? association.target = some target) :
    planOf settings graphs entity association = .error (.missingId name) ↔
      association.kind = .manyToMany ∧ entity.id = none ∧ entity.name = name := by
  rw [planOf_of_target htarget]
  by_cases howns : association.ownsForeignKey
  · have hkind : association.kind ≠ .manyToMany := by
      intro hkind
      simp [Association.ownsForeignKey, hkind] at howns
    rw [if_pos howns, map_eq_error_iff]
    constructor
    · intro herror
      exact absurd (isAboutType_of_foreignKeyOf herror) (by simp [EmissionError.isAboutType])
    · rintro ⟨hmany, -⟩
      exact absurd hmany hkind
  · rw [if_neg howns]
    by_cases hkind : association.kind = .manyToMany
    · rw [if_pos hkind, map_eq_error_iff, joinTableOf]
      cases hid : entity.id <;> simp [hkind]
    · simp [hkind]

theorem Entity.mem_errors_missingId_iff (hentity : entity ∈ graphs.entities) {name : String} :
    .missingId name ∈ entity.errors settings graphs ↔
      entity.id = none ∧ entity.associationsOf .manyToMany ≠ [] ∧ entity.name = name := by
  have hmembers : .missingId name ∉ entity.members.filterMap Member.error? := by
    intro hmem
    obtain ⟨member, -, herror⟩ := List.mem_filterMap.mp hmem
    exact absurd (Member.isAboutType_of_error? herror) (by simp [EmissionError.isAboutType])
  have hplan : ∀ association ∈ entity.associations,
      (errorOf? (planOf settings graphs entity association) = some (.missingId name) ↔
        association.kind = .manyToMany ∧ entity.id = none ∧ entity.name = name) := by
    intro association hassociation
    obtain ⟨target, -, htarget⟩ := EntityGraphs.exists_target hentity hassociation
    rw [errorOf?_eq_some_iff, planOf_eq_missingId_iff htarget]
  rw [Entity.errors, List.mem_append, or_iff_right hmembers, List.mem_filterMap,
    Entity.associationsOf, Ne, List.filter_eq_nil_iff]
  constructor
  · rintro ⟨association, hassociation, herror⟩
    obtain ⟨hkind, hid, hname⟩ := (hplan association hassociation).mp herror
    exact ⟨hid, fun hnone => hnone association hassociation (by simp [hkind]), hname⟩
  · rintro ⟨hid, hsome, hname⟩
    push Not at hsome
    obtain ⟨association, hassociation, hkind⟩ := hsome
    exact ⟨association, hassociation,
      (hplan association hassociation).mpr ⟨by simpa using hkind, hid, hname⟩⟩

/-- A run reports the missing ids of exactly the entities that declare join tables. -/
theorem exists_missingId_iff {name : String} :
    (∃ report, generateAll graphs settings = .error report ∧ .missingId name ∈ report.errors) ↔
      ∃ entity ∈ graphs.entities, entity.id = none ∧ entity.associationsOf .manyToMany ≠ [] ∧
        entity.name = name := by
  have hfailures : .missingId name ∈ (graphs.failures settings).flatMap (·.errors) ↔
      ∃ entity ∈ graphs.entities, entity.id = none ∧ entity.associationsOf .manyToMany ≠ [] ∧
        entity.name = name := by
    rw [EntityGraphs.mem_flatMap_failures_iff]
    apply exists_congr
    intro entity
    apply and_congr_right
    intro hentity
    exact Entity.mem_errors_missingId_iff hentity
  rw [← hfailures]
  constructor
  · rintro ⟨report, hreport, herror⟩
    rw [Report.errors, generateAll_failures hreport] at herror
    exact herror
  · intro herror
    have hfails : graphs.failures settings ≠ [] := by
      intro hnone
      simp [hnone] at herror
    cases hresult : generateAll graphs settings with
    | ok units => exact absurd (generateAll_succeeds_iff.mp ⟨units, hresult⟩) hfails
    | error report =>
        refine ⟨report, rfl, ?_⟩
        rw [Report.errors, generateAll_failures hresult]
        exact herror

end

namespace Run

variable {run : Run} {unit : OutputUnit} {units : List OutputUnit} {entity target source : Entity}
  {column : ColumnSpec}

/-! ## Tables with a key -/

theorem hasKeyIn_iff (hunits : run.units = .ok units) (hentity : entity ∈ run.graphs.entities) :
    entity.HasKeyIn units ↔ entity.id.isSome := by
  obtain ⟨unit, -, -, table, -, hunique, hrepresents⟩ := exists_represented hunits hentity
  have hlength : table.primaryKey.toList.length = entity.id.toList.length := by
    rw [← hrepresents.primaryKey.length_eq, Option.toList_map, List.length_map]
  have hkey : table.primaryKey.isSome = entity.id.isSome := by
    cases hkey : table.primaryKey <;> cases hid : entity.id <;> simp_all
  rw [← hkey]
  constructor
  · rintro ⟨other, hother, hsome⟩
    obtain rfl : table = other := List.singleton_inj.mp (hunique.symm.trans hother)
    exact hsome
  · intro hsome
    exact ⟨table, hunique, hsome⟩

/-- The source of a join table has an id: the join table is made with it. -/
theorem hasKeyIn_of_source (hunits : run.units = .ok units) (hunit : unit ∈ units)
    {table : JoinTable} (htable : table ∈ unit.joinTables)
    (hsource : run.graphs.entity? table.source = some source) : source.HasKeyIn units := by
  obtain ⟨-, hmem, association, -, -, target, hbuilt⟩ :=
    built_of_source hunits hunit htable hsource
  obtain ⟨-, ⟨id, hid, -⟩, -⟩ := references_joinTableOf hbuilt
  rw [hasKeyIn_iff hunits hmem, hid, Option.isSome_some]

/-- Whatever a column refers to is the target of an association that needs its table, or has a
key. -/
theorem needed_or_hasKeyIn (hunits : run.units = .ok units) (hunit : unit ∈ units)
    (hrefers : unit.RefersTo run.graphs run.settings column target) :
    (∃ entity ∈ run.graphs.entities, ∃ association ∈ entity.associations,
        association.needsTarget ∧ run.graphs.entity? association.target = some target) ∨
      target.HasKeyIn units := by
  cases hrefers with
  | @foreignKey entity _ association _ hentity hassociation howns htarget _ =>
      exact .inl ⟨entity, (EntityGraphs.mem_entitiesIn.mp hentity).1, association, hassociation,
        Association.needsTarget_iff.mpr (.inl howns), htarget⟩
  | joinSource htable hsource => exact .inr (hasKeyIn_of_source hunits hunit htable hsource)
  | joinTarget htable htarget =>
      obtain ⟨entity, hentity, association, hassociation, hkind, htarget, -⟩ :=
        built_of_target hunits hunit htable htarget
      exact .inl ⟨entity, hentity, association, hassociation,
        Association.needsTarget_iff.mpr (.inr hkind), htarget⟩

end Run

/-! ## A run -/

/-- What a run refers to is needed by some association, so it has an id if its table has a key. -/
theorem ReferencesKeyed.targetsHaveIds {graphs : EntityGraphs} {settings : Settings}
    {units : List OutputUnit} (hkeyed : ReferencesKeyed graphs settings units)
    (hunits : generateAll graphs settings = .ok units) : graphs.TargetsHaveIds := by
  let run := Run.over graphs settings
  have hrun : run.units = .ok units := hunits
  intro entity hentity association hassociation hneeds
  obtain ⟨target, hmem, htarget⟩ := EntityGraphs.exists_target hentity hassociation
  have hreferenced : run.graphs.Referenced target :=
    ⟨entity, hentity, association, hassociation, .inl ⟨hneeds, htarget⟩⟩
  obtain ⟨unit, hunit, column, hrefers⟩ := Run.refersTo_of_referenced hrun hreferenced
  obtain ⟨name, -, href⟩ := hrefers.references_eq hrun hunit
  obtain ⟨-, hkey⟩ := hkeyed unit hunit column (hrefers.mem_columns hrun hunit) _ href
  rw [htarget, Option.bind_some]
  exact (Run.hasKeyIn_iff hrun hmem).mp (hkey target hrefers)

theorem referencesKeyed_of_targetsHaveIds {graphs : EntityGraphs} {settings : Settings}
    {units : List OutputUnit} (hunits : generateAll graphs settings = .ok units)
    (hids : graphs.TargetsHaveIds) : ReferencesKeyed graphs settings units := by
  let run := Run.over graphs settings
  have hrun : run.units = .ok units := hunits
  intro unit hunit column hcolumn ref href
  refine ⟨Run.exists_refersTo hrun hunit hcolumn href, ?_⟩
  intro target hrefers
  obtain ⟨entity, hentity, association, hassociation, hneeds, htarget⟩ | hkey :=
    Run.needed_or_hasKeyIn hrun hunit hrefers
  · have hid : ((run.graphs.entity? association.target).bind (·.id)).isSome :=
      hids entity hentity association hassociation hneeds
    rw [htarget, Option.bind_some] at hid
    exact (Run.hasKeyIn_iff hrun hrefers.target_mem).mpr hid
  · exact hkey

/-- A run reports exactly the entities that have no id and declare a join table.  A run that
succeeds refers only to tables with a key if and only if the targets of its foreign keys and join
tables have ids. -/
theorem generateAll_references_keyed_iff (graphs : EntityGraphs) (settings : Settings) :
    (∀ name, (∃ report, generateAll graphs settings = .error report ∧
        .missingId name ∈ report.errors) ↔
      ∃ entity ∈ graphs.entities, entity.id = none ∧ entity.associationsOf .manyToMany ≠ [] ∧
        entity.name = name) ∧
      ∀ units, generateAll graphs settings = .ok units →
        (ReferencesKeyed graphs settings units ↔ graphs.TargetsHaveIds) := by
  refine ⟨fun name => exists_missingId_iff, ?_⟩
  intro units hunits
  constructor
  · intro hkeyed
    exact hkeyed.targetsHaveIds hunits
  · exact referencesKeyed_of_targetsHaveIds hunits

/-- Orders with a join table to items, which may have no id, and a foreign key to orders. -/
def shopOfItems (itemsHaveIds : Bool) : EntityGraphs where
  graphs :=
    let id := IdField.named "id" NativeType.long.valueType
    let items : Association := ⟨"items", "shop.Item", .manyToMany, id, none, true, none, none⟩
    let parent : Association := ⟨"parent", "shop.Order", .manyToOne, id, none, true, none, none⟩
    [⟨"shop", [
      { Entity.named "shop.Order" "orders" with id := some id, associations := [items, parent] },
      { Entity.named "shop.Item" "items" with id := if itemsHaveIds then some id else none }]⟩]
  nodup_keys := show ["shop.Order", "shop.Item"].Nodup by decide
  target_mem := by simp [entitiesOf, Entity.key, Entity.named]

/-- Where items have an id, the foreign key and both columns of the join table refer to tables with
a key. -/
theorem shopOfItems_references_keyed :
    ∃ units, generateAll (shopOfItems true) {} = .ok units ∧
      (units.flatMap (·.columns)).filterMap (·.recipe.references) =
        [⟨"OrderTable", "id"⟩, ⟨"OrderTable", "id"⟩, ⟨"ItemTable", "id"⟩] ∧
      ReferencesKeyed (shopOfItems true) {} units := by
  have hrun : ∃ units, generateAll (shopOfItems true) {} = .ok units ∧
      (units.flatMap (·.columns)).filterMap (·.recipe.references) =
        [⟨"OrderTable", "id"⟩, ⟨"OrderTable", "id"⟩, ⟨"ItemTable", "id"⟩] := ⟨_, rfl, rfl⟩
  obtain ⟨units, hunits, hreferences⟩ := hrun
  have hkeyed := (generateAll_references_keyed_iff (shopOfItems true) {}).2 units hunits
  exact ⟨units, hunits, hreferences, hkeyed.mpr (by decide)⟩

/-- An item without an id is not reported, and the join table refers to a key that the items' table
does not have. -/
theorem shopOfItems_references_unkeyed :
    ∃ units, generateAll (shopOfItems false) {} = .ok units ∧
      (units.flatMap (·.columns)).filterMap (·.recipe.references) =
        [⟨"OrderTable", "id"⟩, ⟨"OrderTable", "id"⟩, ⟨"ItemTable", "id"⟩] ∧
      (units.flatMap (·.tables)).map (fun table =>
          (table.objectName, table.primaryKey.map (·.name))) =
        [("OrderTable", some "id"), ("ItemTable", none)] ∧
      ¬ReferencesKeyed (shopOfItems false) {} units := by
  have hrun : ∃ units, generateAll (shopOfItems false) {} = .ok units ∧
      (units.flatMap (·.columns)).filterMap (·.recipe.references) =
        [⟨"OrderTable", "id"⟩, ⟨"OrderTable", "id"⟩, ⟨"ItemTable", "id"⟩] ∧
      (units.flatMap (·.tables)).map (fun table =>
          (table.objectName, table.primaryKey.map (·.name))) =
        [("OrderTable", some "id"), ("ItemTable", none)] := ⟨_, rfl, rfl, rfl⟩
  obtain ⟨units, hunits, hreferences, htables⟩ := hrun
  refine ⟨units, hunits, hreferences, htables, ?_⟩
  intro hkeyed
  exact absurd (hkeyed.targetsHaveIds hunits) (by decide)

end EntityTables
