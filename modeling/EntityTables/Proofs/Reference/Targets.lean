import EntityTables.Proofs.Generation.Tables

/-!
# What the columns of a unit refer to

A column refers to another table in two ways: it is the foreign key of an association, which
refers to the association's target, or it is one of the two columns of a join table.
`OutputUnit.RefersTo` says which entity a column refers to, and every reference in a unit comes
about in one of these ways.

* `built_of_source`, `built_of_target`: every join table of a unit was built for an association
  of its source with its target;
* `exists_foreignKey`, `exists_joinTable`: the associations that need the tables of their targets
  have what refers to them;
* `RefersTo.mem_columns`, `exists_refersTo`: the columns of a unit that refer to an entity are
  its columns with a reference;
* `RefersTo.references_eq`: a reference names the table object of its entity, and a column after
  the name under which the entity's id is known.
-/

namespace EntityTables

/-- A column of the unit refers to the entity: it is the foreign key of an association with the
entity, or the column of a join table for it. -/
inductive OutputUnit.RefersTo (graphs : EntityGraphs) (settings : Settings) (unit : OutputUnit) :
    ColumnSpec → Entity → Prop
  | foreignKey {entity target : Entity} {association : Association} {column : ColumnSpec}
      (hentity : entity ∈ graphs.entitiesIn unit.package)
      (hassociation : association ∈ entity.associations) (howns : association.ownsForeignKey)
      (htarget : graphs.entity? association.target = some target)
      (hcolumn : foreignKeyOf settings association target = .ok column) :
      RefersTo graphs settings unit column target
  | joinSource {source : Entity} {table : JoinTable} (htable : table ∈ unit.joinTables)
      (hsource : graphs.entity? table.source = some source) :
      RefersTo graphs settings unit table.sourceColumn source
  | joinTarget {target : Entity} {table : JoinTable} (htable : table ∈ unit.joinTables)
      (htarget : graphs.entity? table.target = some target) :
      RefersTo graphs settings unit table.targetColumn target

namespace Association

/-- Whether the association needs the table of its target: a foreign key or a join table refers
to it. -/
def needsTarget (association : Association) : Bool :=
  association.ownsForeignKey || association.kind = .manyToMany

theorem needsTarget_iff {association : Association} :
    association.needsTarget ↔ association.ownsForeignKey ∨ association.kind = .manyToMany := by
  simp [needsTarget]

end Association

/-- References to the entity are made with the name for its id: with its own name, for the join
tables of the entity's associations, and with the one that an association knows which needs the
entity's table. -/
inductive EntityGraphs.KnowsId (graphs : EntityGraphs) (target : Entity) : String → Prop
  | own {association : Association} {id : IdField} (htarget : target ∈ graphs.entities)
      (hassociation : association ∈ target.associations)
      (hkind : association.kind = .manyToMany) (hid : target.id = some id) :
      KnowsId graphs target id.name
  | association {entity : Entity} {association : Association} (hentity : entity ∈ graphs.entities)
      (hassociation : association ∈ entity.associations) (hneeds : association.needsTarget)
      (htarget : graphs.entity? association.target = some target) :
      KnowsId graphs target association.targetId.name

namespace OutputUnit

variable {unit : OutputUnit} {column : ColumnSpec}

theorem mem_columns_of_table {table : Table} (htable : table ∈ unit.tables)
    (hcolumn : column ∈ table.allColumns) : column ∈ unit.columns := by
  obtain ⟨declaration, hdeclaration, hsome⟩ := List.mem_filterMap.mp htable
  cases declaration with
  | table object =>
      obtain rfl : object = table := Option.some.inj hsome
      exact List.mem_flatMap.mpr ⟨_, hdeclaration, hcolumn⟩
  | joinTable object => simp [Declaration.table?] at hsome

theorem mem_columns_of_joinTable {table : JoinTable} (htable : table ∈ unit.joinTables)
    (hcolumn : column ∈ table.columns) : column ∈ unit.columns := by
  obtain ⟨declaration, hdeclaration, hsome⟩ := List.mem_filterMap.mp htable
  cases declaration with
  | table object => simp [Declaration.joinTable?] at hsome
  | joinTable object =>
      obtain rfl : object = table := Option.some.inj hsome
      exact List.mem_flatMap.mpr ⟨_, hdeclaration, hcolumn⟩

/-- A column of a unit stands in one of its tables or join tables. -/
theorem of_mem_columns (hcolumn : column ∈ unit.columns) :
    (∃ table ∈ unit.tables, column ∈ table.allColumns) ∨
      ∃ table ∈ unit.joinTables, column ∈ table.columns := by
  obtain ⟨declaration, hdeclaration, hcolumn⟩ := List.mem_flatMap.mp hcolumn
  cases declaration with
  | table object =>
      exact .inl ⟨object, List.mem_filterMap.mpr ⟨_, hdeclaration, rfl⟩, hcolumn⟩
  | joinTable object =>
      exact .inr ⟨object, List.mem_filterMap.mpr ⟨_, hdeclaration, rfl⟩, hcolumn⟩

end OutputUnit

section

variable {run : Run} {unit : OutputUnit} {units : List OutputUnit} {entity target : Entity}
  {table : JoinTable} {column : ColumnSpec}

namespace Run

/-! ## Join tables -/

/-- Every join table of a unit was built for an association of an entity of its package. -/
theorem built_of_mem_joinTables (hunits : run.units = .ok units) (hunit : unit ∈ units)
    (htable : table ∈ unit.joinTables) :
    ∃ entity ∈ run.graphs.entities, entity.package = unit.package ∧
      ∃ association ∈ entity.associations, association.kind = .manyToMany ∧
        run.contribution entity association = .ok (.joinTable table) ∧
          ∃ target, run.graphs.entity? association.target = some target ∧
            joinTableOf run.settings entity association target = .ok table := by
  obtain ⟨entity, hentity, hplace, howned⟩ := (mem_joinTables_iff hunits hunit).mp htable
  obtain ⟨association, hassociation, hcontribution⟩ := mem_ownedJoinTables_iff.mp howned
  obtain ⟨hkind, ⟨target, htarget, hbuilt⟩, -⟩ :=
    (contribution_eq_joinTable_iff hentity hassociation).mp hcontribution
  exact ⟨entity, hentity, hplace, association, hassociation, hkind, hcontribution, target,
    htarget, hbuilt⟩

/-- The two entities of a join table are the one that it was built for and its target. -/
theorem entities_of_joinTableOf {association : Association} (hentity : entity ∈ run.graphs.entities)
    (htarget : run.graphs.entity? association.target = some target)
    (hbuilt : joinTableOf run.settings entity association target = .ok table) :
    run.graphs.entity? table.source = some entity ∧
      run.graphs.entity? table.target = some target := by
  rw [(key_of_joinTableOf hbuilt).1, (references_joinTableOf hbuilt).1]
  obtain ⟨htarget, -⟩ := EntityGraphs.entity?_eq_some_iff.mp htarget
  exact ⟨EntityGraphs.entity?_eq_some_iff.mpr ⟨hentity, rfl⟩,
    EntityGraphs.entity?_eq_some_iff.mpr ⟨htarget, rfl⟩⟩

/-- The source of a join table belongs to the unit's package, and the table was built for one of
its associations. -/
theorem built_of_source (hunits : run.units = .ok units) (hunit : unit ∈ units)
    (htable : table ∈ unit.joinTables) (hsource : run.graphs.entity? table.source = some entity) :
    entity.package = unit.package ∧ entity ∈ run.graphs.entities ∧
      ∃ association ∈ entity.associations, association.kind = .manyToMany ∧
        ∃ target, joinTableOf run.settings entity association target = .ok table := by
  obtain ⟨source, hentity, hplace, association, hassociation, hkind, -, target, htarget, hbuilt⟩ :=
    built_of_mem_joinTables hunits hunit htable
  obtain ⟨hsame, -⟩ := entities_of_joinTableOf hentity htarget hbuilt
  obtain rfl := Option.some.inj (hsame.symm.trans hsource)
  exact ⟨hplace, hentity, association, hassociation, hkind, target, hbuilt⟩

theorem built_of_target (hunits : run.units = .ok units) (hunit : unit ∈ units)
    (htable : table ∈ unit.joinTables) (htarget : run.graphs.entity? table.target = some target) :
    ∃ entity ∈ run.graphs.entities, ∃ association ∈ entity.associations,
      association.kind = .manyToMany ∧ run.graphs.entity? association.target = some target ∧
        joinTableOf run.settings entity association target = .ok table := by
  obtain ⟨entity, hentity, -, association, hassociation, hkind, -, other, hother, hbuilt⟩ :=
    built_of_mem_joinTables hunits hunit htable
  obtain ⟨-, hsame⟩ := entities_of_joinTableOf hentity hother hbuilt
  obtain rfl := Option.some.inj (hsame.symm.trans htarget)
  exact ⟨entity, hentity, association, hassociation, hkind, hother, hbuilt⟩

/-! ## What associations come to -/

theorem exists_foreignKey (hunits : run.units = .ok units) (hentity : entity ∈ run.graphs.entities)
    {association : Association} (hassociation : association ∈ entity.associations)
    (howns : association.ownsForeignKey)
    (htarget : run.graphs.entity? association.target = some target) :
    ∃ column, run.contribution entity association = .ok (.foreignKey column) := by
  obtain ⟨contribution, hcontribution⟩ := exists_contribution hunits hentity hassociation
  rw [contribution_of_target htarget, if_pos howns, map_eq_ok_iff] at hcontribution
  obtain ⟨column, hcolumn, -⟩ := hcontribution
  exact ⟨column, (contribution_eq_foreignKey_iff htarget).mpr ⟨howns, hcolumn⟩⟩

/-- Every many-to-many association has a join table in some unit, between the same two
entities. -/
theorem exists_joinTable (hunits : run.units = .ok units) (hentity : entity ∈ run.graphs.entities)
    {association : Association} (hassociation : association ∈ entity.associations)
    (hkind : association.kind = .manyToMany)
    (htarget : run.graphs.entity? association.target = some target) :
    ∃ unit ∈ units, ∃ table ∈ unit.joinTables,
      run.graphs.joinKey? entity association = some table.key ∧
        (table.source = entity.key ∧ table.target = target.key ∨
          table.source = target.key ∧ table.target = entity.key) := by
  -- the association need not emit the table itself, but the first declaration of its key does
  obtain ⟨key, first, firstAssociation, hkey, hfirst⟩ :=
    EntityGraphs.exists_firstDeclaration hentity hassociation hkind
  obtain ⟨-, -, table, -, hsame, howned⟩ := firstDeclaration_emits hunits hfirst
  have hmem := (EntityGraphs.firstDeclaration?_sound hfirst).1
  obtain ⟨unit, hunit, hpackage, -⟩ := exists_unit hunits hmem
  refine ⟨unit, hunit, table,
    (mem_joinTables_iff hunits hunit).mpr ⟨first, hmem, hpackage.symm, howned⟩, hsame ▸ hkey, ?_⟩
  rw [EntityGraphs.joinKey?, htarget, Option.map_some, ← hsame, JoinTable.key] at hkey
  obtain ⟨⟨hentity, htarget⟩ | ⟨hentity, htarget⟩, -⟩ :=
    JoinKey.of_eq_of_iff.mp (Option.some.inj hkey)
  · exact .inl ⟨hentity.symm, htarget.symm⟩
  · exact .inr ⟨htarget.symm, hentity.symm⟩

end Run

namespace OutputUnit.RefersTo

/-! ## Columns that refer to an entity -/

theorem target_mem (hrefers : unit.RefersTo run.graphs run.settings column target) :
    target ∈ run.graphs.entities := by
  cases hrefers with
  | foreignKey _ _ _ htarget _ => exact (EntityGraphs.entity?_eq_some_iff.mp htarget).1
  | joinSource _ hsource => exact (EntityGraphs.entity?_eq_some_iff.mp hsource).1
  | joinTarget _ htarget => exact (EntityGraphs.entity?_eq_some_iff.mp htarget).1

theorem mem_columns (hunits : run.units = .ok units) (hunit : unit ∈ units)
    (hrefers : unit.RefersTo run.graphs run.settings column target) : column ∈ unit.columns := by
  cases hrefers with
  | @foreignKey entity _ association _ hentity hassociation howns htarget hcolumn =>
      obtain ⟨hentity, hpackage⟩ := EntityGraphs.mem_entitiesIn.mp hentity
      obtain ⟨other, hother, hplace, table, htable, hdeclares⟩ :=
        Run.exists_declared hunits hentity
      obtain rfl : other = unit :=
        Run.eq_of_package_eq hunits hother hunit (hplace.trans hpackage)
      exact mem_columns_of_table htable (hdeclares.mem_columns hassociation
        ((Run.contribution_eq_foreignKey_iff htarget).mpr ⟨howns, hcolumn⟩))
  | joinSource htable _ =>
      exact mem_columns_of_joinTable htable List.mem_cons_self
  | joinTarget htable _ =>
      exact mem_columns_of_joinTable htable (List.mem_cons_of_mem _ (List.mem_singleton_self _))

/-- A reference names the table object of its entity, and a column after a name under which the
entity's id is known. -/
theorem references_eq (hunits : run.units = .ok units) (hunit : unit ∈ units)
    (hrefers : unit.RefersTo run.graphs run.settings column target) :
    ∃ name, run.graphs.KnowsId target name ∧ column.recipe.references =
      some ⟨run.settings.tableObject target.name, variableName name⟩ := by
  cases hrefers with
  | @foreignKey _ _ association _ hentity hassociation howns htarget hcolumn =>
      obtain ⟨hentity, -⟩ := EntityGraphs.mem_entitiesIn.mp hentity
      have hneeds := Association.needsTarget_iff.mpr (.inl howns)
      exact ⟨_, .association hentity hassociation hneeds htarget, references_foreignKeyOf hcolumn⟩
  | joinSource htable hsource =>
      obtain ⟨-, hsource, association, hassociation, hkind, other, hbuilt⟩ :=
        Run.built_of_source hunits hunit htable hsource
      obtain ⟨-, ⟨id, hid, hreferences⟩, -⟩ := references_joinTableOf hbuilt
      exact ⟨_, .own hsource hassociation hkind hid, hreferences⟩
  | joinTarget htable htarget =>
      obtain ⟨entity, hentity, association, hassociation, hkind, htarget, hbuilt⟩ :=
        Run.built_of_target hunits hunit htable htarget
      have hneeds := Association.needsTarget_iff.mpr (.inr hkind)
      exact ⟨_, .association hentity hassociation hneeds htarget,
        (references_joinTableOf hbuilt).2.2⟩

end OutputUnit.RefersTo

/-- Every column of a unit with a reference refers to an entity. -/
theorem Run.exists_refersTo (hunits : run.units = .ok units) (hunit : unit ∈ units)
    (hcolumn : column ∈ unit.columns) {ref : ColumnRef}
    (href : column.recipe.references = some ref) :
    ∃ target, unit.RefersTo run.graphs run.settings column target := by
  rcases OutputUnit.of_mem_columns hcolumn with ⟨table, htable, hcolumn⟩ | ⟨table, htable, hcolumn⟩
  · obtain ⟨entity, hentity, hpackage, hdeclares⟩ := of_mem_tables hunits hunit htable
    obtain ⟨association, hassociation, hcontribution⟩ := hdeclares.of_references hcolumn href
    obtain ⟨target, -, htarget⟩ := EntityGraphs.exists_target hentity hassociation
    obtain ⟨howns, hbuilt⟩ := (contribution_eq_foreignKey_iff htarget).mp hcontribution
    exact ⟨target, .foreignKey (EntityGraphs.mem_entitiesIn.mpr ⟨hentity, hpackage⟩) hassociation
      howns htarget hbuilt⟩
  · obtain ⟨entity, hentity, -, association, -, -, -, target, htarget, hbuilt⟩ :=
      built_of_mem_joinTables hunits hunit htable
    obtain ⟨hsource, htarget⟩ := entities_of_joinTableOf hentity htarget hbuilt
    rcases List.mem_pair.mp hcolumn with rfl | rfl
    · exact ⟨entity, .joinSource htable hsource⟩
    · exact ⟨target, .joinTarget htable htarget⟩

end
end EntityTables
