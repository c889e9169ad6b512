import EntityTables.Proofs.Emission.Agreement
import EntityTables.Proofs.Generation.Report
import EntityTables.Proofs.Generation.Tables

/-!
# The order of entities

The order of entities, and how they are grouped into graphs, decides which of two wrappers gets a
name first and which of two associations owns a join table.  It decides nothing else: errors,
tables and the keys of join tables are described by the entities and by what is found under a key,
and both are the same for graphs with the same entities.

* `ColumnKind.SameUpToNames`, `Table.SameUpToNames`: what may differ in a table are the names of
  its wrappers;
* `entity?_perm`: what is found under a key does not depend on the order;
* `failure?_perm`, `foreignKeys_perm`, `joinKey?_perm`: nor does what is planned for an entity;
* `Table.Represents.sameUpToNames`: two tables that represent one entity are the same up to names;
* `generateAll_perm`: two runs over the same entities fail alike or generate the same schema.
-/

namespace EntityTables

/-! ## Tables up to the names of wrappers -/

/-- The kinds are the same and call no wrapper, or the wrappers that they call by name have the same
body. -/
inductive ColumnKind.SameUpToNames (wrappers others : List Wrapper) :
    ColumnKind → ColumnKind → Prop
  | native {kind : ColumnKind} (hnative : ∀ name, kind ≠ .converted name) :
      SameUpToNames wrappers others kind kind
  | converted {wrapper other : Wrapper}
      (hwrapper : wrappers.find? (·.name = wrapper.name) = some wrapper)
      (hother : others.find? (·.name = other.name) = some other)
      (hbody : wrapper.sameBody other) :
      SameUpToNames wrappers others (.converted wrapper.name) (.converted other.name)

/-- The columns are the same in everything but the names of their wrappers. -/
structure ColumnSpec.SameUpToNames (wrappers others : List Wrapper) (column other : ColumnSpec) :
    Prop where
  kind : column.recipe.kind.SameUpToNames wrappers others other.recipe.kind
  rest : { column with recipe := { column.recipe with kind := other.recipe.kind } } = other

/-- The tables are the same in everything but the names of their wrappers. -/
structure Table.SameUpToNames (wrappers others : List Wrapper) (table other : Table) : Prop where
  objectName_eq : table.objectName = other.objectName
  tableName_eq : table.tableName = other.tableName
  entity_eq : table.entity = other.entity
  primaryKey : List.Forall₂ (ColumnSpec.SameUpToNames wrappers others)
    table.primaryKey.toList other.primaryKey.toList
  columns : List.Forall₂ (ColumnSpec.SameUpToNames wrappers others) table.columns other.columns

/-- Elements that are related to the same elements are related to each other, one by one. -/
theorem forall₂_of_common {α β γ : Type} {R : α → β → Prop} {S : α → γ → Prop} {T : β → γ → Prop}
    (hcommon : ∀ element first second, R element first → S element second → T first second)
    {elements : List α} {firsts : List β} {seconds : List γ}
    (hfirsts : List.Forall₂ R elements firsts) (hseconds : List.Forall₂ S elements seconds) :
    List.Forall₂ T firsts seconds := by
  induction hfirsts generalizing seconds with
  | nil =>
      cases hseconds with
      | nil => exact .nil
  | cons hfirst _ ih =>
      cases hseconds with
      | cons hsecond hrest => exact .cons (hcommon _ _ _ hfirst hsecond) (ih hrest)

section

variable {settings : Settings} {graphs : EntityGraphs} {wrappers others : List Wrapper}

theorem NativeType.columnKind_ne_converted (native : NativeType) (limits : Option ColumnLimits)
    (name : String) : native.columnKind settings limits ≠ .converted name := by
  cases native <;> simp [NativeType.columnKind]

/-- Two columns that represent one member are the same up to the names of their wrappers. -/
theorem ColumnSpec.Represents.sameUpToNames {member : Member} {column other : ColumnSpec}
    (hcolumn : column.Represents settings wrappers member)
    (hother : other.Represents settings others member) :
    column.SameUpToNames wrappers others other := by
  cases hcolumn with
  | @native native hconverter hnative =>
      cases hother with
      | @native otherNative _ hotherNative =>
          obtain rfl : native = otherNative := Except.ok.inj (hnative.symm.trans hotherNative)
          refine ⟨.native ?_, rfl⟩
          simpa [Member.column] using native.columnKind_ne_converted member.limits
      | converted hsome _ _ => simp [hconverter] at hsome
  | @converted converter wrapper hconverter hfind hserves =>
      cases hother with
      | native hnone _ => simp [hconverter] at hnone
      | @converted otherConverter otherWrapper hotherConverter hotherFind hotherServes =>
          obtain rfl : converter = otherConverter :=
            Option.some.inj (hconverter.symm.trans hotherConverter)
          have hcarrier : wrapper.carrier = otherWrapper.carrier :=
            Except.ok.inj (hserves.carrier.symm.trans hotherServes.carrier)
          have hbody : wrapper.sameBody otherWrapper := by
            simp [Wrapper.sameBody, hserves.attributeType, hotherServes.attributeType,
              hserves.converter_eq, hotherServes.converter_eq, hcarrier]
          refine ⟨?_, ?_⟩
          · simpa [Member.column] using
              ColumnKind.SameUpToNames.converted hfind hotherFind hbody
          -- neither column is counted up, so the recipes differ in their kinds only
          · cases hrole : member.role <;>
              simp [Member.column, Member.recipeOf, hrole, ColumnKind.isIntegral]

/-! ## Foreign keys -/

/-- A foreign key calls no wrapper: it refers to an id with a converter through the carrier. -/
theorem IdField.foreignKeyKind_ne_converted {id : IdField} {kind : ColumnKind}
    {valueType : ValueType} (hkind : id.foreignKeyKind settings = .ok (kind, valueType))
    (name : String) : kind ≠ .converted name := by
  cases hconverter : id.converter with
  | none =>
      rw [foreignKeyKind_of_native hconverter] at hkind
      obtain ⟨native, -, hnative⟩ := map_eq_ok_iff.mp hkind
      obtain ⟨rfl, -⟩ := Prod.mk.inj hnative
      exact native.columnKind_ne_converted id.limits name
  | some converter =>
      rw [foreignKeyKind_of_converter hconverter] at hkind
      obtain ⟨carrier, -, hcarrier⟩ := map_eq_ok_iff.mp hkind
      obtain ⟨rfl, -⟩ := Prod.mk.inj hcarrier
      cases carrier <;> simp [Carrier.columnKind]

theorem kind_of_mem_foreignKeys {entity : Entity} {column : ColumnSpec}
    (hcolumn : column ∈ entity.foreignKeys settings graphs) (name : String) :
    column.recipe.kind ≠ .converted name := by
  obtain ⟨association, -, hplan⟩ := Entity.mem_foreignKeys_iff.mp hcolumn
  obtain ⟨-, target, -, hbuilt⟩ := planOf_eq_foreignKey_iff.mp hplan
  obtain ⟨⟨kind, valueType⟩, hkind, rfl⟩ := map_eq_ok_iff.mp hbuilt
  exact IdField.foreignKeyKind_ne_converted hkind name

/-- Two tables that represent one entity, with the same foreign keys, are the same up to the names
of their wrappers. -/
theorem Table.Represents.sameUpToNames {otherGraphs : EntityGraphs} {entity : Entity}
    {table other : Table} (htable : table.Represents settings graphs wrappers entity)
    (hother : other.Represents settings otherGraphs others entity)
    (hforeign : entity.foreignKeys settings graphs = entity.foreignKeys settings otherGraphs) :
    table.SameUpToNames wrappers others other where
  objectName_eq := htable.objectName_eq.trans hother.objectName_eq.symm
  tableName_eq := htable.tableName_eq.trans hother.tableName_eq.symm
  entity_eq := htable.entity_eq.trans hother.entity_eq.symm
  primaryKey := forall₂_of_common (fun _ _ _ hcolumn hsame => hcolumn.sameUpToNames hsame)
    htable.primaryKey hother.primaryKey
  columns := by
    obtain ⟨columns, hproperties, hcolumns⟩ := htable.columns
    obtain ⟨otherColumns, hotherProperties, hotherColumns⟩ := hother.columns
    have hkeys : List.Forall₂ (ColumnSpec.SameUpToNames wrappers others)
        (entity.foreignKeys settings graphs) (entity.foreignKeys settings graphs) := by
      apply List.forall₂_same.mpr
      intro column hcolumn
      exact ⟨.native (kind_of_mem_foreignKeys hcolumn), rfl⟩
    rw [hcolumns, hotherColumns, ← hforeign]
    exact List.rel_append (forall₂_of_common
      (fun _ _ _ hcolumn hsame => hcolumn.sameUpToNames hsame) hproperties hotherProperties) hkeys

end

/-! ## The same entities in another order -/

namespace EntityGraphs

variable {first second : EntityGraphs} {settings : Settings}

/-- What is found under a key does not depend on the order of the entities. -/
theorem entity?_perm (hperm : first.entities.Perm second.entities) (key : EntityKey) :
    first.entity? key = second.entity? key := by
  apply Option.ext
  intro entity
  rw [entity?_eq_some_iff, entity?_eq_some_iff, hperm.mem_iff]

/-- Nor does what is planned for an association, which looks at its target only. -/
theorem planOf_perm (hperm : first.entities.Perm second.entities) (settings : Settings)
    (entity : Entity) : planOf settings first entity = planOf settings second entity := by
  funext association
  exact planOf_congr (entity?_perm hperm association.target)

theorem failure?_perm (hperm : first.entities.Perm second.entities) (settings : Settings) :
    Entity.failure? settings first = Entity.failure? settings second := by
  funext entity
  have herrors : entity.errors settings first = entity.errors settings second := by
    rw [Entity.errors, Entity.errors, planOf_perm hperm]
  rw [Entity.failure?, Entity.failure?, herrors]

theorem foreignKeys_perm (hperm : first.entities.Perm second.entities) (entity : Entity) :
    entity.foreignKeys settings first = entity.foreignKeys settings second := by
  rw [Entity.foreignKeys, Entity.foreignKeys, planOf_perm hperm]

theorem joinKey?_perm (hperm : first.entities.Perm second.entities) (entity : Entity)
    (association : Association) :
    first.joinKey? entity association = second.joinKey? entity association := by
  rw [joinKey?, joinKey?, entity?_perm hperm]

/-- The failures are the same, in an order of their own. -/
theorem failures_perm_of_entities (hperm : first.entities.Perm second.entities)
    (settings : Settings) : (first.failures settings).Perm (second.failures settings) := by
  have hfirst := failures_perm settings first
  rw [failure?_perm hperm] at hfirst
  exact (hfirst.trans (hperm.filterMap _)).trans (failures_perm settings second).symm

end EntityGraphs

/-! ## Two runs -/

/-- Two outputs have the same schema for entities: the same table for each of them, up to the
names of wrappers and in the unit of the same package, and join tables with the same keys. -/
structure SameSchema (entities : List Entity) (units others : List OutputUnit) : Prop where
  /-- The one table of an entity in either output. -/
  tables : ∀ entity ∈ entities, ∃ unit ∈ units, ∃ other ∈ others,
    unit.package = entity.package ∧ other.package = entity.package ∧
      ∃ table ∈ unit.tables, ∃ otherTable ∈ other.tables,
        (units.flatMap (·.tables)).filter (·.entity = entity.key) = [table] ∧
          (others.flatMap (·.tables)).filter (·.entity = entity.key) = [otherTable] ∧
            table.SameUpToNames unit.wrappers other.wrappers otherTable
  joinKeys : ∀ key, key ∈ (units.flatMap (·.joinTables)).map JoinTable.key ↔
    key ∈ (others.flatMap (·.joinTables)).map JoinTable.key

/-- The keys of join tables are declared by associations and do not depend on the order. -/
theorem Run.mem_joinKeys_perm {run other : Run} {units others : List OutputUnit}
    (hunits : run.units = .ok units) (hothers : other.units = .ok others)
    (hperm : run.graphs.entities.Perm other.graphs.entities) (key : JoinKey) :
    key ∈ (units.flatMap (·.joinTables)).map JoinTable.key ↔
      key ∈ (others.flatMap (·.joinTables)).map JoinTable.key := by
  rw [mem_joinKeys_iff hunits, mem_joinKeys_iff hothers]
  simp only [hperm.mem_iff, EntityGraphs.joinKey?_perm hperm]

theorem sameSchema_of_perm {first second : EntityGraphs} {settings : Settings}
    {units others : List OutputUnit} (hunits : generateAll first settings = .ok units)
    (hothers : generateAll second settings = .ok others)
    (hperm : first.entities.Perm second.entities) : SameSchema first.entities units others where
  tables := by
    intro entity hentity
    let run := Run.over first settings
    let otherRun := Run.over second settings
    have hrun : run.units = .ok units := hunits
    have hotherRun : otherRun.units = .ok others := hothers
    obtain ⟨unit, hunit, hpackage, table, htable, hunique, hrepresents⟩ :=
      Run.exists_represented hrun hentity
    obtain ⟨other, hother, hotherPackage, otherTable, hotherTable, hotherUnique,
        hotherRepresents⟩ := Run.exists_represented hotherRun (hperm.mem_iff.mp hentity)
    exact ⟨unit, hunit, other, hother, hpackage, hotherPackage, table, htable, otherTable,
      hotherTable, hunique, hotherUnique, hrepresents.sameUpToNames hotherRepresents
        (EntityGraphs.foreignKeys_perm hperm entity)⟩
  joinKeys := by
    let run := Run.over first settings
    let otherRun := Run.over second settings
    have hrun : run.units = .ok units := hunits
    have hotherRun : otherRun.units = .ok others := hothers
    exact Run.mem_joinKeys_perm hrun hotherRun hperm

/-- The order of entities and their grouping into graphs decide neither whether a run fails nor
what is reported nor what the tables are.  They decide the order of the report, the names of
wrappers and which entity emits a join table. -/
theorem generateAll_perm {first second : EntityGraphs}
    (hperm : first.entities.Perm second.entities) (settings : Settings) :
    ((∃ units, generateAll first settings = .ok units) ↔
        ∃ others, generateAll second settings = .ok others) ∧
      (∀ report other, generateAll first settings = .error report →
        generateAll second settings = .error other → report.failures.Perm other.failures) ∧
      ∀ units others, generateAll first settings = .ok units →
        generateAll second settings = .ok others → SameSchema first.entities units others := by
  have hfailures := EntityGraphs.failures_perm_of_entities hperm settings
  refine ⟨?_, ?_, ?_⟩
  · rw [generateAll_succeeds_iff, generateAll_succeeds_iff, ← List.isEmpty_iff,
      hfailures.isEmpty_eq, List.isEmpty_iff]
  · intro report other hreport hother
    rw [generateAll_failures hreport, generateAll_failures hother]
    exact hfailures
  · intro units others hunits hothers
    exact sameSchema_of_perm hunits hothers hperm

/-- Orders and tags with converted ids of one name and a join table that both declare. -/
def ordersAndTags : List Entity :=
  let converted (name converter : String) : IdField :=
    { IdField.named "id" ⟨"shop", name⟩ with
      converter := some ⟨converter, NativeType.string.valueType⟩ }
  let orderId := converted "OrderId" "OrderIdConverter"
  let tagId := converted "TagId" "TagIdConverter"
  let toMany (name : String) (target : EntityKey) (id : IdField) : Association :=
    ⟨name, target, .manyToMany, id, none, true, none, some "order_tags"⟩
  [{ Entity.named "shop.Order" "orders" with
      id := some orderId, associations := [toMany "tags" "shop.Tag" tagId] },
    { Entity.named "shop.Tag" "tags" with
      id := some tagId, associations := [toMany "orders" "shop.Order" orderId] }]

/-- The orders and the tags in one graph. -/
def shopOfOrdersAndTags : EntityGraphs where
  graphs := [⟨"shop", ordersAndTags⟩]
  nodup_keys := by decide
  target_mem := by decide

/-- The tags in a graph before that of the orders. -/
def shopOfTagsFirst : EntityGraphs where
  graphs := ordersAndTags.reverse.map fun entity => ⟨entity.table, [entity]⟩
  nodup_keys := by decide
  target_mem := by decide

/-- Who gets the name `id` and who emits the join table is another in the second run, and nothing
else is. -/
theorem shopOfOrdersAndTags_perm :
    ∃ units others, generateAll shopOfOrdersAndTags {} = .ok units ∧
      generateAll shopOfTagsFirst {} = .ok others ∧
      units.map (fun unit => (unit.wrappers.map (fun wrapper => (wrapper.name, wrapper.converter)),
          unit.declarations.map (·.objectName))) =
        [([("id", "OrderIdConverter"), ("tagId", "TagIdConverter")],
          ["OrderTable", "OrderTagsTable", "TagTable"])] ∧
      others.map (fun unit => (unit.wrappers.map (fun wrapper => (wrapper.name, wrapper.converter)),
          unit.declarations.map (·.objectName))) =
        [([("id", "TagIdConverter"), ("orderId", "OrderIdConverter")],
          ["TagTable", "TagOrdersTable", "OrderTable"])] ∧
      SameSchema shopOfOrdersAndTags.entities units others := by
  have hperm : shopOfOrdersAndTags.entities.Perm shopOfTagsFirst.entities :=
    (List.reverse_perm shopOfOrdersAndTags.entities).symm
  obtain ⟨-, -, hschema⟩ := generateAll_perm hperm {}
  refine ⟨_, _, rfl, rfl, rfl, rfl, ?_⟩
  exact hschema _ _ rfl rfl

end EntityTables
