import EntityTables.Proofs.Generation.Objects
import EntityTables.Proofs.Reference.Externals

/-!
# What the name of a reference stands for

A reference names the object of a table without its package.  In a unit the name stands for one
entity only if nothing else is declared or external under it, and whether it does is decided by
the names of the entities and of the associations that the unit stores.

* `Run.mem_externals_iff_refersTo`: a unit records the tables of other packages that its columns
  refer to;
* `Run.mem_referredFrom_iff`: the entities that its columns refer to are given by the graphs;
* `Run.identifies_iff`: so is whether the name of one of them stands for it alone;
* `generateAll_references_identify_iff`: every reference of a run identifies its entity if and
  only if the names in the graphs do.
-/

namespace EntityTables

/-- In the unit, the name that the reference gives stands for the entity alone. -/
structure ColumnRef.Identifies (ref : ColumnRef) (unit : OutputUnit) (target : Entity) : Prop where
  /-- Nothing is declared under the name for another entity. -/
  declared : ∀ declaration ∈ unit.declarations, declaration.objectName = ref.tableObject →
    declaration.entity = target.key
  /-- No external table of the name is from a package other than that of the entity. -/
  external : ∀ external ∈ unit.externals, external.tableObject = ref.tableObject →
    external.package = target.package

/-- Every column that refers to an entity has a reference that identifies it. -/
def ReferencesIdentify (graphs : EntityGraphs) (settings : Settings)
    (units : List OutputUnit) : Prop :=
  ∀ unit ∈ units, ∀ column ∈ unit.columns, ∀ target,
    unit.RefersTo graphs settings column target →
      ∃ ref, column.recipe.references = some ref ∧ ref.Identifies unit target

/-! ## Names in the graphs -/

namespace EntityGraphs

variable {graphs : EntityGraphs} {package : String} {target : Entity}

/-- The entities that the columns for an association refer to. -/
def referredBy (graphs : EntityGraphs) (entity : Entity) (association : Association) :
    List Entity :=
  if association.ownsForeignKey then (graphs.entity? association.target).toList
  else if association.kind = .manyToMany && graphs.declaresFirst entity association then
    entity :: (graphs.entity? association.target).toList
  else []

/-- The entities that the columns of a package refer to. -/
def referredFrom (graphs : EntityGraphs) (package : String) : List Entity :=
  (graphs.entitiesIn package).flatMap fun entity =>
    entity.associations.flatMap (graphs.referredBy entity)

/-- Within a package, the name of an entity stands for it alone. -/
structure NameIdentifies (graphs : EntityGraphs) (package : String) (target : Entity) : Prop where
  /-- Neither another entity nor one of its join tables has the name. -/
  declared : ∀ object ∈ graphs.objectsIn package, object.2 = target.name → object.1 = target
  /-- Entities of other packages that have the name, and are referred to, are of its package. -/
  external : ∀ other ∈ graphs.referredFrom package, other.package ≠ package →
    other.name = target.name → other.package = target.package

instance : Decidable (graphs.NameIdentifies package target) :=
  decidable_of_iff
    ((∀ object ∈ graphs.objectsIn package, object.2 = target.name → object.1 = target) ∧
      ∀ other ∈ graphs.referredFrom package, other.package ≠ package →
        other.name = target.name → other.package = target.package)
    ⟨fun ⟨hdeclared, hexternal⟩ => ⟨hdeclared, hexternal⟩,
      fun hidentifies => ⟨hidentifies.declared, hidentifies.external⟩⟩

/-- The target of a foreign key is referred to, and both entities of a join table are. -/
theorem mem_referredBy_iff {entity : Entity} {association : Association} :
    target ∈ graphs.referredBy entity association ↔
      association.ownsForeignKey ∧ graphs.entity? association.target = some target ∨
        (association.kind = .manyToMany ∧ graphs.declaresFirst entity association) ∧
          (target = entity ∨ graphs.entity? association.target = some target) := by
  unfold referredBy
  by_cases howns : association.ownsForeignKey
  · -- a many-to-many association owns no foreign key
    have hkind : association.kind ≠ .manyToMany := by
      intro hkind
      simp [Association.ownsForeignKey, hkind] at howns
    simp [howns, hkind]
  · rw [if_neg howns]
    by_cases hfirst : association.kind = .manyToMany ∧ graphs.declaresFirst entity association
    · simp [howns, hfirst]
    · rw [if_neg (by simpa using hfirst)]
      simp [howns, hfirst]

theorem mem_referredFrom :
    target ∈ graphs.referredFrom package ↔
      ∃ entity ∈ graphs.entitiesIn package, ∃ association ∈ entity.associations,
        target ∈ graphs.referredBy entity association := by
  simp only [referredFrom, List.mem_flatMap]

end EntityGraphs

namespace Run

variable {run : Run} {unit : OutputUnit} {units : List OutputUnit} {entity target : Entity}
  {association : Association}

/-! ## What a unit refers to -/

/-- What an association contributes refers to its target. -/
theorem refersTo_of_contribution (hunits : run.units = .ok units) (hunit : unit ∈ units)
    (hentity : entity ∈ run.graphs.entities) (hpackage : entity.package = unit.package)
    (hassociation : association ∈ entity.associations)
    (htarget : run.graphs.entity? association.target = some target) {contribution : Contribution}
    (hcontribution : run.contribution entity association = .ok contribution)
    (hrefers : contribution.refersToTarget) :
    ∃ column, unit.RefersTo run.graphs run.settings column target := by
  cases contribution with
  | foreignKey column =>
      obtain ⟨howns, hcolumn⟩ := (contribution_eq_foreignKey_iff htarget).mp hcontribution
      exact ⟨column, .foreignKey (EntityGraphs.mem_entitiesIn.mpr ⟨hentity, hpackage⟩)
        hassociation howns htarget hcolumn⟩
  | joinTable table =>
      obtain ⟨-, ⟨other, hother, hbuilt⟩, -⟩ :=
        (contribution_eq_joinTable_iff hentity hassociation).mp hcontribution
      obtain rfl := Option.some.inj (hother.symm.trans htarget)
      have howned := mem_ownedJoinTables_iff.mpr ⟨association, hassociation, hcontribution⟩
      have htable := (mem_joinTables_iff hunits hunit).mpr ⟨entity, hentity, hpackage, howned⟩
      exact ⟨_, .joinTarget htable (entities_of_joinTableOf hentity htarget hbuilt).2⟩
  | ownedElsewhere table => simp [Contribution.refersToTarget] at hrefers
  | nothing => simp [Contribution.refersToTarget] at hrefers

/-- A unit records the tables of other packages that its columns refer to. -/
theorem mem_externals_iff_refersTo (hunits : run.units = .ok units) (hunit : unit ∈ units)
    {external : ExternalTable} :
    external ∈ unit.externals ↔
      ∃ other, (∃ column, unit.RefersTo run.graphs run.settings column other) ∧
        other.package ≠ unit.package ∧ external = other.external run.settings := by
  constructor
  · intro hexternal
    obtain ⟨entity, hentity, association, hassociation, hstores, other, hother, hpackage, rfl⟩ :=
      (mem_externals_iff hunits hunit).mp hexternal
    obtain ⟨emitter, hemitter, hplace, emitted, hemitted, htarget, contribution, hcontribution,
      hrefers⟩ :=
        contribution_of_stores hunits hunit hentity hassociation hstores hother hpackage
    exact ⟨other, refersTo_of_contribution hunits hunit hemitter hplace hemitted htarget
      hcontribution hrefers, hpackage, rfl⟩
  · rintro ⟨other, ⟨column, hrefers⟩, hpackage, rfl⟩
    exact external_mem_of_refersTo hunits hunit hrefers hpackage

/-- An association that contributes its join table declares the table first. -/
theorem declaresFirst_of_contribution (hentity : entity ∈ run.graphs.entities)
    (hassociation : association ∈ entity.associations) {table : JoinTable}
    (hcontribution : run.contribution entity association = .ok (.joinTable table)) :
    run.graphs.declaresFirst entity association := by
  obtain ⟨hkind, ⟨target, htarget, -⟩, -⟩ :=
    (contribution_eq_joinTable_iff hentity hassociation).mp hcontribution
  have hemitted := joinTable?_contribution hentity hassociation hkind htarget
  rw [hcontribution] at hemitted
  by_contra hother
  rw [if_neg hother] at hemitted
  exact absurd hemitted (Option.some_ne_none _)

/-- An association that declares its join table first has it in the unit of its package. -/
theorem exists_joinTable_of_declaresFirst (hunits : run.units = .ok units) (hunit : unit ∈ units)
    (hentity : entity ∈ run.graphs.entitiesIn unit.package)
    (hassociation : association ∈ entity.associations) (hkind : association.kind = .manyToMany)
    (hfirst : run.graphs.declaresFirst entity association)
    (htarget : run.graphs.entity? association.target = some target) :
    ∃ table ∈ unit.joinTables, joinTableOf run.settings entity association target = .ok table := by
  obtain ⟨hentity, hpackage⟩ := EntityGraphs.mem_entitiesIn.mp hentity
  obtain ⟨table, hbuilt⟩ := exists_built hunits hentity hassociation hkind htarget
  have howned : table ∈ run.ownedJoinTables entity := by
    rw [ownedJoinTables_eq hentity, EntityGraphs.joinTablesOf]
    refine List.mem_filterMap.mpr ⟨association, ?_, ?_⟩
    · exact List.mem_filter.mpr
        ⟨List.mem_filter.mpr ⟨hassociation, decide_eq_true hkind⟩, hfirst⟩
    · rw [htarget, Option.bind_some, hbuilt]
      rfl
  exact ⟨table, (mem_joinTables_iff hunits hunit).mpr ⟨entity, hentity, hpackage, howned⟩, hbuilt⟩

/-- The entities that the columns of a unit refer to are given by the graphs. -/
theorem mem_referredFrom_iff (hunits : run.units = .ok units) (hunit : unit ∈ units) :
    target ∈ run.graphs.referredFrom unit.package ↔
      ∃ column, unit.RefersTo run.graphs run.settings column target := by
  simp only [EntityGraphs.mem_referredFrom, EntityGraphs.mem_referredBy_iff]
  constructor
  · rintro ⟨entity, hentity, association, hassociation, ⟨howns, htarget⟩ |
      ⟨⟨hkind, hfirst⟩, hside⟩⟩
    · obtain ⟨hmem, hpackage⟩ := EntityGraphs.mem_entitiesIn.mp hentity
      obtain ⟨column, hcontribution⟩ := exists_foreignKey hunits hmem hassociation howns htarget
      exact refersTo_of_contribution hunits hunit hmem hpackage hassociation htarget
        hcontribution rfl
    · obtain ⟨hmem, -⟩ := EntityGraphs.mem_entitiesIn.mp hentity
      obtain ⟨other, -, hother⟩ := EntityGraphs.exists_target hmem hassociation
      obtain ⟨table, htable, hbuilt⟩ :=
        exists_joinTable_of_declaresFirst hunits hunit hentity hassociation hkind hfirst hother
      obtain ⟨hsource, hsink⟩ := entities_of_joinTableOf hmem hother hbuilt
      rcases hside with rfl | htarget
      · exact ⟨_, .joinSource htable hsource⟩
      · obtain rfl := Option.some.inj (hother.symm.trans htarget)
        exact ⟨_, .joinTarget htable hsink⟩
  · rintro ⟨column, hrefers⟩
    -- both columns of a join table come from the association that contributes it
    have hjoin : ∀ table ∈ unit.joinTables, run.graphs.entity? table.source = some target ∨
        run.graphs.entity? table.target = some target →
        ∃ entity ∈ run.graphs.entitiesIn unit.package, ∃ association ∈ entity.associations,
          (association.kind = .manyToMany ∧ run.graphs.declaresFirst entity association) ∧
            (target = entity ∨ run.graphs.entity? association.target = some target) := by
      intro table htable hside
      obtain ⟨entity, hentity, hpackage, association, hassociation, hkind, hcontribution, other,
        hother, hbuilt⟩ := built_of_mem_joinTables hunits hunit htable
      refine ⟨entity, EntityGraphs.mem_entitiesIn.mpr ⟨hentity, hpackage⟩, association,
        hassociation, ⟨hkind, declaresFirst_of_contribution hentity hassociation hcontribution⟩, ?_⟩
      obtain ⟨hsource, hsink⟩ := entities_of_joinTableOf hentity hother hbuilt
      rcases hside with htarget | htarget
      · exact .inl (Option.some.inj (htarget.symm.trans hsource))
      · obtain rfl := Option.some.inj (htarget.symm.trans hsink)
        exact .inr hother
    cases hrefers with
    | @foreignKey entity _ association _ hentity hassociation howns htarget hcolumn =>
        exact ⟨entity, hentity, association, hassociation, .inl ⟨howns, htarget⟩⟩
    | @joinSource _ table htable hsource =>
        obtain ⟨entity, hentity, association, hassociation, hside⟩ :=
          hjoin table htable (.inl hsource)
        exact ⟨entity, hentity, association, hassociation, .inr hside⟩
    | @joinTarget _ table htable htarget =>
        obtain ⟨entity, hentity, association, hassociation, hside⟩ :=
          hjoin table htable (.inr htarget)
        exact ⟨entity, hentity, association, hassociation, .inr hside⟩

/-! ## What identifies an entity -/

/-- What is declared under the name of an entity's table is declared for the entity alone if and
only if the name of the entity is met nowhere else in the package. -/
theorem declared_iff (hunits : run.units = .ok units) (hunit : unit ∈ units)
    (htarget : target ∈ run.graphs.entities) :
    (∀ declaration ∈ unit.declarations,
      declaration.objectName = run.settings.tableObject target.name →
        declaration.entity = target.key) ↔
      ∀ object ∈ run.graphs.objectsIn unit.package, object.2 = target.name → object.1 = target := by
  have hobjects := objects_of_unit hunits hunit
  calc (∀ declaration ∈ unit.declarations,
        declaration.objectName = run.settings.tableObject target.name →
          declaration.entity = target.key)
      ↔ ∀ object ∈ unit.declarations.map fun declaration =>
          (declaration.entity, declaration.objectName),
          object.2 = run.settings.tableObject target.name → object.1 = target.key := by
        rw [List.forall_mem_map]
    _ ↔ ∀ object ∈ (run.graphs.objectsIn unit.package).map fun object =>
          (object.1.key, run.settings.tableObject object.2),
          object.2 = run.settings.tableObject target.name → object.1 = target.key := by
        simp only [hobjects.mem_iff]
    _ ↔ ∀ object ∈ run.graphs.objectsIn unit.package,
          run.settings.tableObject object.2 = run.settings.tableObject target.name →
            object.1.key = target.key := by
        rw [List.forall_mem_map]
    _ ↔ ∀ object ∈ run.graphs.objectsIn unit.package,
          object.2 = target.name → object.1 = target := by
        apply forall₂_congr
        intro object hobject
        rw [Settings.tableObject_inj]
        apply imp_congr_right
        intro _
        have hentity := EntityGraphs.entity_mem_of_objectsIn hobject
        exact ⟨EntityGraphs.eq_of_key_eq hentity htarget, congrArg Entity.key⟩

/-- The external tables of an entity's name are from its package if and only if the entities of
the name that the package refers to are. -/
theorem external_iff (hunits : run.units = .ok units) (hunit : unit ∈ units) (target : Entity) :
    (∀ external ∈ unit.externals,
      external.tableObject = run.settings.tableObject target.name →
        external.package = target.package) ↔
      ∀ other ∈ run.graphs.referredFrom unit.package, other.package ≠ unit.package →
        other.name = target.name → other.package = target.package := by
  constructor
  · intro hexternals other hother hpackage hname
    obtain ⟨column, hrefers⟩ := (mem_referredFrom_iff hunits hunit).mp hother
    have hexternal := external_mem_of_refersTo hunits hunit hrefers hpackage
    exact hexternals _ hexternal (congrArg run.settings.tableObject hname)
  · intro hnames external hexternal hname
    obtain ⟨other, hrefers, hpackage, rfl⟩ :=
      (mem_externals_iff_refersTo hunits hunit).mp hexternal
    have hother := (mem_referredFrom_iff hunits hunit).mpr hrefers
    exact hnames other hother hpackage (Settings.tableObject_inj.mp hname)

/-- The name of a reference identifies an entity in a unit if and only if the name of the entity
does so in the unit's package. -/
theorem identifies_iff (hunits : run.units = .ok units) (hunit : unit ∈ units)
    (htarget : target ∈ run.graphs.entities) {ref : ColumnRef}
    (href : ref.tableObject = run.settings.tableObject target.name) :
    ref.Identifies unit target ↔ run.graphs.NameIdentifies unit.package target := by
  have hdeclared := declared_iff hunits hunit htarget
  have hexternal := external_iff hunits hunit target
  rw [← href] at hdeclared hexternal
  constructor
  · intro hidentifies
    exact ⟨hdeclared.mp hidentifies.declared, hexternal.mp hidentifies.external⟩
  · intro hidentifies
    exact ⟨hdeclared.mpr hidentifies.declared, hexternal.mpr hidentifies.external⟩

end Run

/-! ## A run -/

/-- Every reference of a run that succeeds identifies its entity if and only if, in every package,
the names of the entities that it refers to do. -/
theorem generateAll_references_identify_iff {graphs : EntityGraphs} {settings : Settings}
    {units : List OutputUnit} (hunits : generateAll graphs settings = .ok units) :
    ReferencesIdentify graphs settings units ↔
      ∀ package ∈ graphs.packages, ∀ target ∈ graphs.referredFrom package,
        graphs.NameIdentifies package target := by
  let run := Run.over graphs settings
  have hrun : run.units = .ok units := hunits
  have hpackages : units.map (·.package) = graphs.packages := Run.units_map_package hrun
  rw [← hpackages, List.forall_mem_map]
  apply forall₂_congr
  intro unit hunit
  constructor
  · intro hidentify target htarget
    obtain ⟨column, hrefers⟩ := (Run.mem_referredFrom_iff hrun hunit).mp htarget
    obtain ⟨ref, href, hidentifies⟩ :=
      hidentify column (hrefers.mem_columns hrun hunit) target hrefers
    obtain ⟨name, -, hreferences⟩ := hrefers.references_eq hrun hunit
    obtain rfl := Option.some.inj (hreferences.symm.trans href)
    exact (Run.identifies_iff hrun hunit hrefers.target_mem rfl).mp hidentifies
  · intro hnames column _ target hrefers
    obtain ⟨name, -, hreferences⟩ := hrefers.references_eq hrun hunit
    have htarget := (Run.mem_referredFrom_iff hrun hunit).mpr ⟨column, hrefers⟩
    exact ⟨_, hreferences,
      (Run.identifies_iff hrun hunit hrefers.target_mem rfl).mpr (hnames target htarget)⟩

/-- Orders of two customers, the first of whom may be a customer of another package. -/
def shopOfCustomersAbroad (abroad : Bool) : EntityGraphs where
  graphs :=
    let id := IdField.named "id" NativeType.long.valueType
    let toOne (name : String) (target : EntityKey) : Association :=
      ⟨name, target, .manyToOne, id, none, true, none, none⟩
    let customer := if abroad then "crm.Customer" else "shop.Customer"
    [⟨"sales", [
      { Entity.named "shop.Order" "orders" with
        id := some id
        associations := [toOne "customer" customer, toOne "recipient" "shop.Customer",
          toOne "agent" "crm.Agent"] },
      { Entity.named "shop.Customer" "customers" with id := some id }]⟩,
    ⟨"contacts", [
      { Entity.named "crm.Customer" "crm_customers" with id := some id },
      { Entity.named "crm.Agent" "agents" with
        id := some id, associations := [toOne "customer" "crm.Customer"] }]⟩]
  nodup_keys := by cases abroad <;> decide
  target_mem := by cases abroad <;> decide

theorem shopOfCustomers_references_identify :
    ∃ units, generateAll (shopOfCustomersAbroad false) {} = .ok units ∧
      ReferencesIdentify (shopOfCustomersAbroad false) {} units := by
  have hrun : ∃ units, generateAll (shopOfCustomersAbroad false) {} = .ok units := ⟨_, rfl⟩
  obtain ⟨units, hunits⟩ := hrun
  have hnames : ∀ package ∈ (shopOfCustomersAbroad false).packages,
      ∀ target ∈ (shopOfCustomersAbroad false).referredFrom package,
        (shopOfCustomersAbroad false).NameIdentifies package target := by decide +kernel
  exact ⟨units, hunits, (generateAll_references_identify_iff hunits).mpr hnames⟩

/-- The customer of another package is referred to by the name under which that of the shop is
declared. -/
theorem shopOfCustomersAbroad_references_ambiguous :
    (shopOfCustomersAbroad true).NamedByKeys ∧
      ∃ units, generateAll (shopOfCustomersAbroad true) {} = .ok units ∧
        ¬ReferencesIdentify (shopOfCustomersAbroad true) {} units := by
  let run := Run.over (shopOfCustomersAbroad true) {}
  have hrun : ∃ units, run.units = .ok units ∧ ∃ unit ∈ units, unit.package = "shop" ∧
      ∃ declaration ∈ unit.declarations,
        declaration.objectName = "CustomerTable" ∧ declaration.entity = "shop.Customer" :=
    ⟨_, rfl, _, List.mem_cons_self, rfl, _, List.mem_cons_of_mem _ List.mem_cons_self, rfl, rfl⟩
  obtain ⟨units, hunits, unit, hunit, hpackage, declaration, hdeclaration, hobject, hentity⟩ := hrun
  refine ⟨by decide +kernel, units, hunits, ?_⟩
  intro hidentify
  have hreferred : ∃ target ∈ run.graphs.referredFrom "shop",
      target.key = "crm.Customer" ∧ run.settings.tableObject target.name = "CustomerTable" := by
    decide +kernel
  obtain ⟨target, htarget, hkey, hname⟩ := hreferred
  obtain ⟨column, hrefers⟩ := (Run.mem_referredFrom_iff hunits hunit).mp (hpackage ▸ htarget)
  obtain ⟨ref, href, hidentifies⟩ :=
    hidentify unit hunit column (hrefers.mem_columns hunits hunit) target hrefers
  obtain ⟨_, -, hreferences⟩ := hrefers.references_eq hunits hunit
  obtain rfl := Option.some.inj (hreferences.symm.trans href)
  -- what the shop declares under the name is for its own customer
  have hdeclared := hidentifies.declared declaration hdeclaration (hobject.trans hname.symm)
  rw [hentity, hkey] at hdeclared
  exact absurd hdeclared (by decide)

end EntityTables
