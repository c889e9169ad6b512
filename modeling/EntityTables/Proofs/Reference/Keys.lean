import EntityTables.Proofs.Reference.Targets

/-!
# Whether references resolve

A reference names a table object and its key.  The table object is named as the table declares
it.  The key is named after the id of the entity, with its first character in lower case, but a
table declares its key under the name of the id as it is.  So the references to an entity resolve
if and only if the name of its id is not changed by `variableName`.

* `EntityGraphs.TargetIdsAgree`: associations know the ids of their targets;
* `refersTo_of_referenced`: the entities that a run refers to;
* `references_of_refersTo`: what a reference names, against what its table declares;
* `generateAll_references_resolve_iff`: when all references of a run resolve.
-/

namespace EntityTables

/-- The ids agree in everything that a reference to them could be made from. -/
def IdField.agrees (id other : IdField) : Bool :=
  id.name = other.name && id.type = other.type && id.limits = other.limits &&
    id.converter = other.converter

namespace EntityGraphs

/-- The target of every association that needs its table has an id, and the association knows it
as it is. -/
def TargetIdsAgree (graphs : EntityGraphs) : Prop :=
  ∀ entity ∈ graphs.entities, ∀ association ∈ entity.associations, association.needsTarget →
    ((graphs.entity? association.target).bind (·.id)).any association.targetId.agrees

instance (graphs : EntityGraphs) : Decidable graphs.TargetIdsAgree :=
  inferInstanceAs (Decidable (∀ entity ∈ graphs.entities, ∀ association ∈ entity.associations,
    association.needsTarget →
      ((graphs.entity? association.target).bind (·.id)).any association.targetId.agrees))

/-- The entity is the target of an association that needs its table, or it stands in a join table
as the source of an association. -/
def Referenced (graphs : EntityGraphs) (target : Entity) : Prop :=
  ∃ entity ∈ graphs.entities, ∃ association ∈ entity.associations,
    association.needsTarget ∧ graphs.entity? association.target = some target ∨
      association.kind = .manyToMany ∧ entity = target

instance (graphs : EntityGraphs) (target : Entity) : Decidable (graphs.Referenced target) :=
  inferInstanceAs (Decidable (∃ entity ∈ graphs.entities, ∃ association ∈ entity.associations,
    association.needsTarget ∧ graphs.entity? association.target = some target ∨
      association.kind = .manyToMany ∧ entity = target))

theorem KnowsId.referenced {graphs : EntityGraphs} {target : Entity} {name : String}
    (hknows : graphs.KnowsId target name) : graphs.Referenced target := by
  cases hknows with
  | own htarget hassociation hkind _ =>
      exact ⟨target, htarget, _, hassociation, .inr ⟨hkind, rfl⟩⟩
  | association hentity hassociation hneeds htarget =>
      exact ⟨_, hentity, _, hassociation, .inl ⟨hneeds, htarget⟩⟩

/-- Where associations know the ids of their targets, the id of an entity is known by its own
name only. -/
theorem KnowsId.name_eq {graphs : EntityGraphs} {target : Entity} {name : String}
    (hknows : graphs.KnowsId target name) (hids : graphs.TargetIdsAgree) :
    ∃ id, target.id = some id ∧ id.name = name := by
  cases hknows with
  | own _ _ _ hid => exact ⟨_, hid, rfl⟩
  | association hentity hassociation hneeds htarget =>
      have hagrees := hids _ hentity _ hassociation hneeds
      rw [htarget, Option.bind_some, Option.any_eq_true] at hagrees
      obtain ⟨id, hid, hagrees⟩ := hagrees
      simp only [IdField.agrees, Bool.and_eq_true, decide_eq_true_eq] at hagrees
      exact ⟨id, hid, hagrees.1.1.1.symm⟩

end EntityGraphs

/-- The reference is to the key of the entity: among all units there is exactly one table of the
entity, and the reference names its object and its key. -/
def ColumnRef.Resolves (ref : ColumnRef) (units : List OutputUnit) (entity : Entity) : Prop :=
  ∃ table key, (units.flatMap (·.tables)).filter (·.entity = entity.key) = [table] ∧
    table.primaryKey = some key ∧ ref = ⟨table.objectName, key.name⟩

/-- Every reference of a run is to the key of the entity that its column refers to. -/
def ReferencesResolve (graphs : EntityGraphs) (settings : Settings) (units : List OutputUnit) :
    Prop :=
  ∀ unit ∈ units, ∀ column ∈ unit.columns, ∀ ref, column.recipe.references = some ref →
    (∃ target, unit.RefersTo graphs settings column target) ∧
      ∀ target, unit.RefersTo graphs settings column target → ref.Resolves units target

namespace Run

variable {run : Run} {unit : OutputUnit} {units : List OutputUnit} {entity target : Entity}
  {association : Association} {column : ColumnSpec}

/-! ## The entities that a run refers to -/

theorem refersTo_of_ownsForeignKey (hunits : run.units = .ok units)
    (hentity : entity ∈ run.graphs.entities) (hassociation : association ∈ entity.associations)
    (howns : association.ownsForeignKey)
    (htarget : run.graphs.entity? association.target = some target) :
    ∃ unit ∈ units, ∃ column, unit.RefersTo run.graphs run.settings column target := by
  obtain ⟨column, hcontribution⟩ := exists_foreignKey hunits hentity hassociation howns htarget
  obtain ⟨-, hcolumn⟩ := (contribution_eq_foreignKey_iff htarget).mp hcontribution
  obtain ⟨unit, hunit, hpackage, -⟩ := exists_unit hunits hentity
  exact ⟨unit, hunit, column, .foreignKey (EntityGraphs.mem_entitiesIn.mpr ⟨hentity, hpackage.symm⟩)
    hassociation howns htarget hcolumn⟩

/-- The join table of a many-to-many association refers to both of its entities. -/
theorem refersTo_of_manyToMany (hunits : run.units = .ok units)
    (hentity : entity ∈ run.graphs.entities) (hassociation : association ∈ entity.associations)
    (hkind : association.kind = .manyToMany)
    (htarget : run.graphs.entity? association.target = some target) :
    ∃ unit ∈ units, (∃ column, unit.RefersTo run.graphs run.settings column entity) ∧
      ∃ column, unit.RefersTo run.graphs run.settings column target := by
  obtain ⟨unit, hunit, table, htable, -, hparties⟩ :=
    exists_joinTable hunits hentity hassociation hkind htarget
  obtain ⟨hmem, -⟩ := EntityGraphs.entity?_eq_some_iff.mp htarget
  have hfound := EntityGraphs.entity?_eq_some_iff.mpr ⟨hentity, rfl⟩
  have hother := EntityGraphs.entity?_eq_some_iff.mpr ⟨hmem, rfl⟩
  rcases hparties with ⟨hsource, htarget⟩ | ⟨hsource, htarget⟩
  · exact ⟨unit, hunit, ⟨_, .joinSource htable (hsource ▸ hfound)⟩,
      ⟨_, .joinTarget htable (htarget ▸ hother)⟩⟩
  · exact ⟨unit, hunit, ⟨_, .joinTarget htable (htarget ▸ hfound)⟩,
      ⟨_, .joinSource htable (hsource ▸ hother)⟩⟩

theorem refersTo_of_referenced (hunits : run.units = .ok units)
    (hreferenced : run.graphs.Referenced target) :
    ∃ unit ∈ units, ∃ column, unit.RefersTo run.graphs run.settings column target := by
  obtain ⟨entity, hentity, association, hassociation, ⟨hneeds, htarget⟩ | ⟨hkind, rfl⟩⟩ :=
    hreferenced
  · rcases Association.needsTarget_iff.mp hneeds with howns | hkind
    · exact refersTo_of_ownsForeignKey hunits hentity hassociation howns htarget
    · obtain ⟨unit, hunit, -, hrefers⟩ :=
        refersTo_of_manyToMany hunits hentity hassociation hkind htarget
      exact ⟨unit, hunit, hrefers⟩
  · obtain ⟨_, -, htarget⟩ := EntityGraphs.exists_target hentity hassociation
    obtain ⟨unit, hunit, hrefers, -⟩ :=
      refersTo_of_manyToMany hunits hentity hassociation hkind htarget
    exact ⟨unit, hunit, hrefers⟩

/-! ## What a reference names -/

/-- A reference names the object of its entity's table as it is declared, and the key after the
declared name. -/
theorem references_of_refersTo (hunits : run.units = .ok units) (hids : run.graphs.TargetIdsAgree)
    (hunit : unit ∈ units) (hrefers : unit.RefersTo run.graphs run.settings column target) :
    ∃ table key id, (units.flatMap (·.tables)).filter (·.entity = target.key) = [table] ∧
      table.primaryKey = some key ∧ target.id = some id ∧ key.name = id.name ∧
        column.recipe.references = some ⟨table.objectName, variableName key.name⟩ := by
  obtain ⟨name, hknows, hreferences⟩ := hrefers.references_eq hunits hunit
  obtain ⟨id, hid, rfl⟩ := hknows.name_eq hids
  obtain ⟨table, hunique, hdeclares⟩ := exists_unique_table hunits hrefers.target_mem
  obtain ⟨key, hkey, hname⟩ := hdeclares.primaryKey_name hid
  refine ⟨table, key, id, hunique, hkey, hid, hname, ?_⟩
  rw [hreferences, hdeclares.objectName_eq, hname]

/-- The reference of a column resolves if and only if `variableName` keeps the name of the
entity's id. -/
theorem resolves_iff (hunits : run.units = .ok units) (hids : run.graphs.TargetIdsAgree)
    (hunit : unit ∈ units) (hrefers : unit.RefersTo run.graphs run.settings column target) :
    (∃ ref, column.recipe.references = some ref ∧ ref.Resolves units target) ↔
      ∀ id ∈ target.id, variableName id.name = id.name := by
  obtain ⟨table, key, id, hunique, hkey, hid, hname, hreferences⟩ :=
    references_of_refersTo hunits hids hunit hrefers
  constructor
  · rintro ⟨ref, href, other, otherKey, hother, hotherKey, rfl⟩ known hknown
    -- both tables and both keys are those of the entity, so the two names are of one column
    obtain rfl : table = other := List.singleton_inj.mp (hunique.symm.trans hother)
    obtain rfl := Option.some.inj (hkey.symm.trans hotherKey)
    obtain rfl := Option.some.inj (hid.symm.trans hknown)
    have hnames := (ColumnRef.mk.inj (Option.some.inj (hreferences.symm.trans href))).2
    rw [← hname]
    exact hnames
  · intro hkept
    refine ⟨_, hreferences, table, key, hunique, hkey, ?_⟩
    rw [hname, hkept id hid]

end Run

/-! ## A run -/

/-- References that resolve name declared keys. -/
theorem ReferencesResolve.mem_declared {graphs : EntityGraphs} {settings : Settings}
    {units : List OutputUnit} (hresolve : ReferencesResolve graphs settings units)
    {ref : ColumnRef}
    (href : ref ∈ (units.flatMap (·.columns)).filterMap (·.recipe.references)) :
    (ref.tableObject, some ref.column) ∈
      (units.flatMap (·.tables)).map fun table =>
        (table.objectName, table.primaryKey.map (·.name)) := by
  obtain ⟨column, hcolumn, href⟩ := List.mem_filterMap.mp href
  obtain ⟨unit, hunit, hcolumn⟩ := List.mem_flatMap.mp hcolumn
  obtain ⟨⟨target, hrefers⟩, hresolves⟩ := hresolve unit hunit column hcolumn ref href
  obtain ⟨table, key, hunique, hkey, rfl⟩ := hresolves target hrefers
  have htable : table ∈ units.flatMap (·.tables) :=
    (List.mem_filter.mp (hunique ▸ List.mem_singleton_self table)).1
  exact List.mem_map.mpr ⟨table, htable, by rw [hkey, Option.map_some]⟩

/-- Where associations know the ids of their targets, all references of a run resolve if and only
if no id of an entity that is referred to starts with a character that `variableName` changes. -/
theorem generateAll_references_resolve_iff {graphs : EntityGraphs} {settings : Settings}
    {units : List OutputUnit} (hunits : generateAll graphs settings = .ok units)
    (hids : graphs.TargetIdsAgree) :
    ReferencesResolve graphs settings units ↔
      ∀ entity ∈ graphs.entities, graphs.Referenced entity →
        ∀ id ∈ entity.id, variableName id.name = id.name := by
  let run := Run.over graphs settings
  have hrun : run.units = .ok units := hunits
  constructor
  · intro hresolve entity hentity hreferenced
    -- one column that refers to the entity is enough: whether it resolves depends on the id alone
    obtain ⟨unit, hunit, column, hrefers⟩ := Run.refersTo_of_referenced hrun hreferenced
    obtain ⟨name, -, href⟩ := hrefers.references_eq hrun hunit
    obtain ⟨-, hresolves⟩ := hresolve unit hunit column (hrefers.mem_columns hrun hunit) _ href
    exact (Run.resolves_iff hrun hids hunit hrefers).mp ⟨_, href, hresolves entity hrefers⟩
  · intro hkept unit hunit column hcolumn ref href
    refine ⟨Run.exists_refersTo hrun hunit hcolumn href, ?_⟩
    intro target hrefers
    have hentity : target ∈ run.graphs.entities := hrefers.target_mem
    obtain ⟨name, hknows, -⟩ := hrefers.references_eq hrun hunit
    obtain ⟨other, hother, hresolves⟩ :=
      (Run.resolves_iff hrun hids hunit hrefers).mpr (hkept target hentity hknows.referenced)
    obtain rfl := Option.some.inj (hother.symm.trans href)
    exact hresolves

/-- Orders with a foreign key to customers and a join table with items of another package. -/
def shopOfReferences (customerId : String) : EntityGraphs where
  graphs :=
    let idNamed (name : String) : IdField := .named name NativeType.long.valueType
    let customer : Association :=
      ⟨"customer", "shop.Customer", .manyToOne, idNamed customerId, none, true, none, none⟩
    let items : Association :=
      ⟨"items", "stock.Item", .manyToMany, idNamed "code", none, true, none, some "order_items"⟩
    [⟨"shop", [
      { Entity.named "shop.Customer" "customers" with id := some (idNamed customerId) },
      { Entity.named "shop.Order" "orders" with
        id := some (idNamed "number"), associations := [customer, items] },
      { Entity.named "stock.Item" "items" with id := some (idNamed "code") }]⟩]
  nodup_keys := show ["shop.Customer", "shop.Order", "stock.Item"].Nodup by decide
  target_mem := by simp [entitiesOf, Entity.key, Entity.named]

/-- All three references are to keys that are declared. -/
theorem shopOfReferences_resolve :
    ∃ units, generateAll (shopOfReferences "id") {} = .ok units ∧
      (units.flatMap (·.columns)).filterMap (·.recipe.references) =
        [⟨"CustomerTable", "id"⟩, ⟨"OrderTable", "number"⟩, ⟨"ItemTable", "code"⟩] ∧
      ReferencesResolve (shopOfReferences "id") {} units := by
  have hrun : ∃ units, generateAll (shopOfReferences "id") {} = .ok units ∧
      (units.flatMap (·.columns)).filterMap (·.recipe.references) =
        [⟨"CustomerTable", "id"⟩, ⟨"OrderTable", "number"⟩, ⟨"ItemTable", "code"⟩] :=
    ⟨_, rfl, rfl⟩
  obtain ⟨units, hunits, hreferences⟩ := hrun
  refine ⟨units, hunits, hreferences, ?_⟩
  exact (generateAll_references_resolve_iff hunits (by decide)).mpr (by decide)

/-- An id with an upper-case name is declared as it is but referred to in lower case. -/
theorem shopOfReferences_unresolved :
    (shopOfReferences "Id").TargetIdsAgree ∧
      ∃ units, generateAll (shopOfReferences "Id") {} = .ok units ∧
        ¬ReferencesResolve (shopOfReferences "Id") {} units := by
  have hrun : ∃ units, generateAll (shopOfReferences "Id") {} = .ok units ∧
      (units.flatMap (·.columns)).filterMap (·.recipe.references) =
        [⟨"CustomerTable", "id"⟩, ⟨"OrderTable", "number"⟩, ⟨"ItemTable", "code"⟩] ∧
      (units.flatMap (·.tables)).map (fun table =>
          (table.objectName, table.primaryKey.map (·.name))) =
        [("CustomerTable", some "Id"), ("OrderTable", some "number"), ("ItemTable", some "code")] :=
    ⟨_, rfl, rfl, rfl⟩
  obtain ⟨units, hunits, hreferences, htables⟩ := hrun
  refine ⟨by decide, units, hunits, ?_⟩
  intro hresolve
  have hcustomer : (⟨"CustomerTable", "id"⟩ : ColumnRef) ∈
      (units.flatMap (·.columns)).filterMap (·.recipe.references) := by
    rw [hreferences]
    exact List.mem_cons_self
  have hdeclared := hresolve.mem_declared hcustomer
  rw [htables] at hdeclared
  exact absurd hdeclared (by decide)

end EntityTables
