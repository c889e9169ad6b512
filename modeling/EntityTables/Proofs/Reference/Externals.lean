import EntityTables.Proofs.Reference.Targets

/-!
# The external tables of a unit

A unit records the tables of other packages that it refers to.  They are recorded while entities
are emitted, association by association, apart from the columns that need them; the two agree,
because both are decided by what the association contributes.

* `Emits.mem_externals`: the external tables of a run are those that its entities refer to;
* `mem_externals_iff`: they are the tables of the targets of the associations that the unit
  stores;
* `generateAll_references_closed`: every reference of a unit is to one of its own tables or to
  an external table, and every external table is declared in its package.
-/

namespace EntityTables

/-- The table of an entity, as it is recorded outside the entity's package. -/
def Entity.external (settings : Settings) (entity : Entity) : ExternalTable :=
  ⟨entity.package, settings.tableObject entity.name⟩

/-- The unit stores an association of an entity: as a foreign key in the table of the entity, or
in a join table that the unit emits, whichever association the table is emitted for. -/
inductive OutputUnit.Stores (graphs : EntityGraphs) (unit : OutputUnit) (entity : Entity)
    (association : Association) : Prop
  | foreignKey (hpackage : entity.package = unit.package) (howns : association.ownsForeignKey)
  | joinTable {table : JoinTable} (hkind : association.kind = .manyToMany)
      (htable : table ∈ unit.joinTables)
      (hkey : graphs.joinKey? entity association = some table.key)

namespace Run

variable {run : Run} {unit final : OutputUnit} {units : List OutputUnit} {entity : Entity}
  {entities : List Entity} {association : Association} {stage : Stage} {package : String}
  {external : ExternalTable}

/-! ## What an entity refers to -/

/-- The external tables that the associations of an entity refer to from a package. -/
def externalsOf (run : Run) (package : String) (entity : Entity) : List ExternalTable :=
  entity.associations.filterMap fun association =>
    run.externalOf? package ⟨association, run.contribution entity association⟩

theorem stageOf_externals (hstage : run.stageOf unit entity = .ok stage) :
    stage.externals = Ordered.ofList (run.externalsOf unit.package entity) := by
  rw [(stageOf_eq_ok_iff.mp hstage).2]
  simp only [Draft.stage, draft, List.filterMap_map, Function.comp_def, externalsOf]

theorem external?_eq_some_iff :
    run.external? package association = some external ↔
      ∃ target, run.graphs.entity? association.target = some target ∧ target.package ≠ package ∧
        external = target.external run.settings := by
  simp only [external?, Option.bind_eq_some_iff]
  apply exists_congr
  intro target
  apply and_congr_right
  intro _
  by_cases hpackage : target.package = package <;>
    simp [hpackage, Entity.external, eq_comm]

theorem mem_externalsOf :
    external ∈ run.externalsOf package entity ↔
      ∃ association ∈ entity.associations,
        (∃ contribution, run.contribution entity association = .ok contribution ∧
          contribution.refersToTarget) ∧
        run.external? package association = some external := by
  simp only [externalsOf, List.mem_filterMap, externalOf?]
  apply exists_congr
  intro association
  apply and_congr_right
  intro _
  cases run.contribution entity association with
  | error error => simp
  | ok contribution => by_cases hrefers : contribution.refersToTarget <;> simp [hrefers]

/-! ## What a run records -/

theorem Emits.mem_externals (hemits : run.Emits unit entities final) :
    external ∈ final.externals ↔ external ∈ unit.externals ∨
      ∃ entity ∈ entities, external ∈ run.externalsOf unit.package entity := by
  induction hemits with
  | nil unit => simp
  | @cons unit final entity entities stage hstage hrest ih =>
      -- a commit keeps the package, so the entities behind it refer to the same external tables
      have hcommit : external ∈ (unit.commit stage).externals ↔
          external ∈ unit.externals ∨ external ∈ run.externalsOf unit.package entity := by
        rw [OutputUnit.commit, Ordered.mem_insertAll, stageOf_externals hstage, Ordered.mem_ofList]
      rw [ih, hcommit, or_assoc]
      simp only [List.mem_cons, exists_eq_or_imp]
      rfl

theorem Emits.ascending_externals (hemits : run.Emits unit entities final)
    (hunit : Ordered.Ascending unit.externals) : Ordered.Ascending final.externals :=
  hemits.invariant (fun _ _ _ hunit _ => Ordered.ascending_insertAll hunit) hunit

theorem mem_externals_of_unitOfPackage (hunit : run.unitOfPackage package = .ok unit) :
    external ∈ unit.externals ↔
      ∃ entity ∈ run.graphs.entitiesIn package, external ∈ run.externalsOf package entity := by
  rw [(unitOfPackage_eq_ok_iff.mp hunit).mem_externals]
  simp

/-! ## The external tables of a unit -/

/-- An association that contributes a reference to its target is stored in the unit. -/
theorem stores_of_contribution (hunits : run.units = .ok units) (hunit : unit ∈ units)
    (hentity : entity ∈ run.graphs.entities) (hpackage : entity.package = unit.package)
    (hassociation : association ∈ entity.associations) {contribution : Contribution}
    (hcontribution : run.contribution entity association = .ok contribution)
    (hrefers : contribution.refersToTarget) : unit.Stores run.graphs entity association := by
  obtain ⟨target, -, htarget⟩ := EntityGraphs.exists_target hentity hassociation
  cases contribution with
  | foreignKey column =>
      exact .foreignKey hpackage ((contribution_eq_foreignKey_iff htarget).mp hcontribution).1
  | joinTable table =>
      obtain ⟨hkind, ⟨target, htarget, hbuilt⟩, -⟩ :=
        (contribution_eq_joinTable_iff hentity hassociation).mp hcontribution
      have howned := mem_ownedJoinTables_iff.mpr ⟨association, hassociation, hcontribution⟩
      exact .joinTable hkind
        ((mem_joinTables_iff hunits hunit).mpr ⟨entity, hentity, hpackage, howned⟩)
        (EntityGraphs.joinKey?_of_built htarget hbuilt)
  | ownedElsewhere table => simp [Contribution.refersToTarget] at hrefers
  | nothing => simp [Contribution.refersToTarget] at hrefers

/-- The target of an association that is stored in the unit, when it belongs to another package,
is the target of an association of the package that contributes a reference to it. -/
theorem contribution_of_stores (hunits : run.units = .ok units) (hunit : unit ∈ units)
    (hentity : entity ∈ run.graphs.entities) (hassociation : association ∈ entity.associations)
    (hstores : unit.Stores run.graphs entity association) {target : Entity}
    (htarget : run.graphs.entity? association.target = some target)
    (hpackage : target.package ≠ unit.package) :
    ∃ emitter ∈ run.graphs.entities, emitter.package = unit.package ∧
      ∃ emitted ∈ emitter.associations,
        run.graphs.entity? emitted.target = some target ∧
          ∃ contribution, run.contribution emitter emitted = .ok contribution ∧
            contribution.refersToTarget := by
  cases hstores with
  | foreignKey hplace howns =>
      obtain ⟨column, hcontribution⟩ :=
        exists_foreignKey hunits hentity hassociation howns htarget
      exact ⟨entity, hentity, hplace, association, hassociation, htarget, _, hcontribution, rfl⟩
  | @joinTable table hkind htable hkey =>
      obtain ⟨emitter, hemitter, hplace, emitted, hemitted, -, hcontribution, other, hother,
        hbuilt⟩ := built_of_mem_joinTables hunits hunit htable
      refine ⟨emitter, hemitter, hplace, emitted, hemitted, ?_, _, hcontribution, rfl⟩
      obtain ⟨htargetmem, -⟩ := EntityGraphs.entity?_eq_some_iff.mp htarget
      obtain ⟨hothermem, -⟩ := EntityGraphs.entity?_eq_some_iff.mp hother
      -- the table is between the same two entities, and the emitting one is in the unit's package
      rw [EntityGraphs.joinKey?, htarget, Option.map_some, (key_of_joinTableOf hbuilt).2] at hkey
      obtain ⟨⟨-, hsame⟩ | ⟨-, hsame⟩, -⟩ := JoinKey.of_eq_of_iff.mp (Option.some.inj hkey)
      · rw [EntityGraphs.eq_of_key_eq htargetmem hothermem hsame]
        exact hother
      · obtain rfl := EntityGraphs.eq_of_key_eq htargetmem hemitter hsame
        exact absurd hplace hpackage

/-- The external tables of a unit are the tables of the targets, in other packages, of the
associations that the unit stores. -/
theorem mem_externals_iff (hunits : run.units = .ok units) (hunit : unit ∈ units) :
    external ∈ unit.externals ↔
      ∃ entity ∈ run.graphs.entities, ∃ association ∈ entity.associations,
        unit.Stores run.graphs entity association ∧
          ∃ target, run.graphs.entity? association.target = some target ∧
            target.package ≠ unit.package ∧ external = target.external run.settings := by
  rw [mem_externals_of_unitOfPackage (unitOfPackage_of_mem hunits hunit)]
  simp only [mem_externalsOf, external?_eq_some_iff, EntityGraphs.mem_entitiesIn]
  constructor
  · rintro ⟨entity, ⟨hentity, hpackage⟩, association, hassociation,
      ⟨contribution, hcontribution, hrefers⟩, htarget⟩
    exact ⟨entity, hentity, association, hassociation, stores_of_contribution hunits hunit hentity
      hpackage hassociation hcontribution hrefers, htarget⟩
  · rintro ⟨entity, hentity, association, hassociation, hstores, target, htarget, hpackage,
      hexternal⟩
    obtain ⟨emitter, hemitter, hplace, emitted, hemitted, hother, hcontribution⟩ :=
      contribution_of_stores hunits hunit hentity hassociation hstores htarget hpackage
    exact ⟨emitter, ⟨hemitter, hplace⟩, emitted, hemitted, hcontribution, target, hother,
      hpackage, hexternal⟩

/-- What a column refers to, when it belongs to another package, is the target of an association
that the unit stores. -/
theorem external_mem_of_refersTo (hunits : run.units = .ok units) (hunit : unit ∈ units)
    {column : ColumnSpec} {target : Entity}
    (hrefers : unit.RefersTo run.graphs run.settings column target)
    (hpackage : target.package ≠ unit.package) :
    target.external run.settings ∈ unit.externals := by
  apply (mem_externals_iff hunits hunit).mpr
  cases hrefers with
  | @foreignKey entity _ association _ hentity hassociation howns htarget hcolumn =>
      obtain ⟨hentity, hplace⟩ := EntityGraphs.mem_entitiesIn.mp hentity
      exact ⟨entity, hentity, association, hassociation, .foreignKey hplace howns, target, htarget,
        hpackage, rfl⟩
  | joinSource htable hsource =>
      -- the source of a join table is the entity that emits it
      exact absurd (built_of_source hunits hunit htable hsource).1 hpackage
  | joinTarget htable htarget =>
      obtain ⟨entity, hentity, association, hassociation, hkind, htarget, hbuilt⟩ :=
        built_of_target hunits hunit htable htarget
      have hkey := EntityGraphs.joinKey?_of_built htarget hbuilt
      exact ⟨entity, hentity, association, hassociation, .joinTable hkind htable hkey, target,
        htarget, hpackage, rfl⟩

end Run

/-! ## A run -/

/-- The references of a run are closed, and its external tables are exactly those that are
needed. -/
structure ReferencesClosed (graphs : EntityGraphs) (settings : Settings)
    (units : List OutputUnit) : Prop where
  /-- The external tables of a unit are a set. -/
  ascending : ∀ unit ∈ units, Ordered.Ascending unit.externals
  /-- They are the tables of the targets, in other packages, of the associations that the unit
  stores. -/
  externals_iff : ∀ unit ∈ units, ∀ external, external ∈ unit.externals ↔
    ∃ entity ∈ graphs.entities, ∃ association ∈ entity.associations,
      unit.Stores graphs entity association ∧
        ∃ target, graphs.entity? association.target = some target ∧
          target.package ≠ unit.package ∧ external = target.external settings
  /-- A reference names the object of a table of the unit or of an external table. -/
  closed : ∀ unit ∈ units, ∀ column ∈ unit.columns, ∀ ref,
    column.recipe.references = some ref →
      (∃ table ∈ unit.tables, table.objectName = ref.tableObject) ∨
        ∃ external ∈ unit.externals, external.tableObject = ref.tableObject
  /-- An external table is declared in the unit of its package. -/
  declared : ∀ unit ∈ units, ∀ external ∈ unit.externals,
    ∃ other ∈ units, other.package = external.package ∧
      ∃ table ∈ other.tables, table.objectName = external.tableObject

/-- In a run that succeeds, every unit records exactly the tables of other packages that it needs;
what its columns refer to is declared in the unit or recorded, and what is recorded is declared
in its package. -/
theorem generateAll_references_closed {graphs : EntityGraphs} {settings : Settings}
    {units : List OutputUnit} (hunits : generateAll graphs settings = .ok units) :
    ReferencesClosed graphs settings units := by
  let run := Run.over graphs settings
  have hrun : run.units = .ok units := hunits
  refine ⟨?_, fun unit hunit _ => Run.mem_externals_iff hrun hunit, ?_, ?_⟩
  · intro unit hunit
    have hemits := Run.unitOfPackage_eq_ok_iff.mp (Run.unitOfPackage_of_mem hrun hunit)
    exact hemits.ascending_externals List.Pairwise.nil
  · intro unit hunit column hcolumn ref href
    obtain ⟨target, hrefers⟩ := Run.exists_refersTo hrun hunit hcolumn href
    obtain ⟨name, -, hreferences⟩ := hrefers.references_eq hrun hunit
    obtain rfl := Option.some.inj (hreferences.symm.trans href)
    by_cases hpackage : target.package = unit.package
    · obtain ⟨other, hother, hplace, table, htable, hdeclares⟩ :=
        Run.exists_declared hrun hrefers.target_mem
      obtain rfl := Run.eq_of_package_eq hrun hother hunit (hplace.trans hpackage)
      exact .inl ⟨table, htable, hdeclares.objectName_eq⟩
    · exact .inr ⟨_, Run.external_mem_of_refersTo hrun hunit hrefers hpackage, rfl⟩
  · intro unit hunit external hexternal
    obtain ⟨_, _, _, _, _, target, htarget, -, rfl⟩ :=
      (Run.mem_externals_iff hrun hunit).mp hexternal
    obtain ⟨htarget, -⟩ := EntityGraphs.entity?_eq_some_iff.mp htarget
    obtain ⟨other, hother, hpackage, table, htable, hdeclares⟩ := Run.exists_declared hrun htarget
    exact ⟨other, hother, hpackage, table, htable, hdeclares.objectName_eq⟩

/-- Orders that refer to two other packages, one of which declares their join table again. -/
def shopOfPackages : EntityGraphs where
  graphs :=
    let id := IdField.named "id" NativeType.long.valueType
    let customer (name : String) : Association :=
      ⟨name, "crm.Customer", .manyToOne, id, none, true, none, none⟩
    let items : Association := ⟨"items", "stock.Item", .manyToMany, id, none, true, none, none⟩
    let orders : Association := ⟨"orders", "shop.Order", .manyToMany, id, none, true, none, none⟩
    [⟨"sales", [
      { Entity.named "shop.Order" "orders" with
        id := some id, associations := [items, customer "buyer", customer "payer"] },
      { Entity.named "crm.Customer" "customers" with id := some id }]⟩,
    ⟨"goods", [{ Entity.named "stock.Item" "items" with
      id := some id, associations := [orders] }]⟩]
  nodup_keys := by decide
  target_mem := by decide

/-- The item refers to no other package: the order emits their join table. -/
theorem shopOfPackages_references_closed :
    ∃ units, generateAll shopOfPackages {} = .ok units ∧
      units.map (·.externals) = [[⟨"crm", "CustomerTable"⟩, ⟨"stock", "ItemTable"⟩], [], []] ∧
      ReferencesClosed shopOfPackages {} units := by
  have hrun : ∃ units, generateAll shopOfPackages {} = .ok units ∧
      units.map (·.externals) = [[⟨"crm", "CustomerTable"⟩, ⟨"stock", "ItemTable"⟩], [], []] :=
    ⟨_, rfl, rfl⟩
  obtain ⟨units, hunits, hexternals⟩ := hrun
  exact ⟨units, hunits, hexternals, generateAll_references_closed hunits⟩

end EntityTables
