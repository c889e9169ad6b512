import EntityTables.Proofs.Emission.Columns
import EntityTables.Proofs.JoinTable.Ownership

/-!
# The tables of a run

A run declares one table for each entity, in the unit of the entity's package, and behind it the
join tables of the entity: those of the many-to-many associations that declare their join table
first.  Which these are is said by the graphs alone, in `EntityGraphs.joinTablesOf`.

* `ownedJoinTables_eq`: the join tables that an entity emits are those that it declares first;
* `blocks_of_unitOfPackage`: the tables and declarations of a unit;
* `exists_declared`, `of_mem_tables`: the tables of a run and its entities;
* `exists_represented`: the table of an entity represents it;
* `generateAll_tables`: every entity has one table, in its place.
-/

namespace EntityTables
namespace EntityGraphs

/-- Whether the first declaration of the association's join table is one of the same entity,
under the same name. -/
def declaresFirst (graphs : EntityGraphs) (entity : Entity) (association : Association) : Bool :=
  ((graphs.joinKey? entity association).bind graphs.firstDeclaration?).any
    fun (first, firstAssociation) =>
      first.key = entity.key && firstAssociation.name = association.name

/-- The join tables that an entity owns, in the order of its associations. -/
def joinTablesOf (settings : Settings) (graphs : EntityGraphs) (entity : Entity) :
    List JoinTable :=
  ((entity.associationsOf .manyToMany).filter (graphs.declaresFirst entity)).filterMap
    fun association => (graphs.entity? association.target).bind fun target =>
      (joinTableOf settings entity association target).toOption

end EntityGraphs

namespace Run

variable {run : Run} {package : String} {unit : OutputUnit} {units : List OutputUnit}
  {entity : Entity}

/-! ## The join tables of an entity -/

/-- A many-to-many association emits the join table that is built for it if its entity declares
the table first. -/
theorem joinTable?_contribution (hentity : entity ∈ run.graphs.entities)
    {association : Association} (hassociation : association ∈ entity.associations)
    (hkind : association.kind = .manyToMany) {target : Entity}
    (htarget : run.graphs.entity? association.target = some target) :
    (run.contribution entity association).toOption.bind (·.joinTable?) =
      if run.graphs.declaresFirst entity association then
        (joinTableOf run.settings entity association target).toOption
      else none := by
  rw [contribution_manyToMany hkind htarget]
  cases htable : joinTableOf run.settings entity association target with
  | error error => simp [Except.map, Except.toOption]
  | ok table =>
      obtain ⟨key, first, firstAssociation, hkey, hfirst⟩ :=
        EntityGraphs.exists_firstDeclaration hentity hassociation hkind
      obtain rfl : key = table.key :=
        Option.some.inj (hkey.symm.trans (EntityGraphs.joinKey?_of_built htarget htable))
      have howns : ownsJoinTable run.joinDeclarations entity association table =
          run.graphs.declaresFirst entity association := by
        rw [Bool.eq_iff_iff, ownsJoinTable_iff hentity hfirst]
        simp only [EntityGraphs.declaresFirst, hkey, Option.bind_some, hfirst, Option.any_some,
          Bool.and_eq_true, decide_eq_true_eq]
        apply and_congr_left
        intro _
        have hmem := (EntityGraphs.firstDeclaration?_sound hfirst).1
        -- owners are compared as entities in one place and by their keys in the other
        exact ⟨congrArg Entity.key, EntityGraphs.eq_of_key_eq hmem hentity⟩
      rw [Except.map, Except.toOption, Option.bind_some, howns]
      split <;> rfl

theorem ownedJoinTables_eq (hentity : entity ∈ run.graphs.entities) :
    run.ownedJoinTables entity = run.graphs.joinTablesOf run.settings entity := by
  rw [ownedJoinTables, EntityGraphs.joinTablesOf, Entity.associationsOf, List.filter_filter,
    List.filterMap_filter]
  apply List.filterMap_congr
  intro association hassociation
  by_cases hkind : association.kind = .manyToMany
  · obtain ⟨target, -, htarget⟩ := EntityGraphs.exists_target hentity hassociation
    rw [joinTable?_contribution hentity hassociation hkind htarget]
    simp [hkind, htarget]
  · rw [joinTable?_of_kind_ne hkind]
    simp [hkind]

/-! ## The tables of units -/

theorem blocks_of_unitOfPackage (hunit : run.unitOfPackage package = .ok unit) :
    List.Forall₂ run.Declares unit.tables (run.graphs.entitiesIn package) ∧
      unit.declarations = (List.zipWith Declaration.block unit.tables
        ((run.graphs.entitiesIn package).map run.ownedJoinTables)).flatten := by
  obtain ⟨tables, hdeclares, htables, hdeclarations⟩ := (unitOfPackage_eq_ok_iff.mp hunit).blocks
  -- the unit was empty before its package was emitted
  obtain rfl : unit.tables = tables := htables
  exact ⟨hdeclares, hdeclarations⟩

/-- Every entity has a table in the unit of its package. -/
theorem exists_declared (hunits : run.units = .ok units) (hentity : entity ∈ run.graphs.entities) :
    ∃ unit ∈ units, unit.package = entity.package ∧
      ∃ table ∈ unit.tables, run.Declares table entity := by
  obtain ⟨unit, hmem, hpackage, hunit⟩ := exists_unit hunits hentity
  obtain ⟨before, stage, hstage, hextends⟩ := (unitOfPackage_eq_ok_iff.mp hunit).stage_of_mem
    (EntityGraphs.mem_entitiesIn.mpr ⟨hentity, rfl⟩)
  exact ⟨unit, hmem, hpackage, _, table_mem_of_extends hstage hextends,
    ⟨before, stage, hstage, rfl⟩⟩

/-- No other table of the run is of the same entity. -/
theorem filter_tables_eq (hunits : run.units = .ok units) (hunit : unit ∈ units) {table : Table}
    (htable : table ∈ unit.tables) :
    (units.flatMap (·.tables)).filter (·.entity = table.entity) = [table] := by
  have hnodup : ((units.flatMap (·.tables)).map Table.entity).Nodup :=
    (flatMap_tables_perm hunits).nodup_iff.mpr run.graphs.nodup_keys
  exact filter_eq_singleton_of_nodup_map hnodup (List.mem_flatMap.mpr ⟨unit, hunit, htable⟩)

/-- Among all tables of a run there is exactly one of each entity. -/
theorem exists_unique_table (hunits : run.units = .ok units)
    (hentity : entity ∈ run.graphs.entities) :
    ∃ table, (units.flatMap (·.tables)).filter (·.entity = entity.key) = [table] ∧
      run.Declares table entity := by
  obtain ⟨unit, hunit, -, table, htable, hdeclares⟩ := exists_declared hunits hentity
  refine ⟨table, ?_, hdeclares⟩
  rw [← hdeclares.entity_eq]
  exact filter_tables_eq hunits hunit htable

/-- The table of an entity represents it, with the wrappers of the unit in which it stands. -/
theorem exists_represented (hunits : run.units = .ok units)
    (hentity : entity ∈ run.graphs.entities) :
    ∃ unit ∈ units, unit.package = entity.package ∧ ∃ table ∈ unit.tables,
      (units.flatMap (·.tables)).filter (·.entity = entity.key) = [table] ∧
        table.Represents run.settings run.graphs unit.wrappers entity := by
  obtain ⟨unit, hmem, hpackage, hunit⟩ := exists_unit hunits hentity
  obtain ⟨before, stage, hstage, hextends⟩ := (unitOfPackage_eq_ok_iff.mp hunit).stage_of_mem
    (EntityGraphs.mem_entitiesIn.mpr ⟨hentity, rfl⟩)
  have htable := table_mem_of_extends hstage hextends
  -- what the columns call was bound when the entity was committed, and is still there
  obtain ⟨later, hlater⟩ := hextends.wrappers_prefix
  refine ⟨unit, hmem, hpackage, _, htable, filter_tables_eq hunits hmem htable, ?_⟩
  rw [← hlater]
  exact (represents_of_stage hstage).append later

/-- Every table of a unit is that of an entity of the unit's package. -/
theorem of_mem_tables (hunits : run.units = .ok units) (hunit : unit ∈ units) {table : Table}
    (htable : table ∈ unit.tables) :
    ∃ entity ∈ run.graphs.entities, entity.package = unit.package ∧ run.Declares table entity := by
  obtain ⟨hdeclares, -⟩ := blocks_of_unitOfPackage (unitOfPackage_of_mem hunits hunit)
  obtain ⟨index, hindex, rfl⟩ := List.getElem_of_mem htable
  have hlength := hdeclares.length_eq
  obtain ⟨hentity, hplace⟩ := EntityGraphs.mem_entitiesIn.mp
    (List.getElem_mem (hlength ▸ hindex : index < (run.graphs.entitiesIn unit.package).length))
  exact ⟨_, hentity, hplace, hdeclares.get hindex (hlength ▸ hindex)⟩

end Run

/-! ## A run -/

/-- Every entity has one table, in its place, with the join tables that it owns behind it. -/
structure TablesPlaced (graphs : EntityGraphs) (settings : Settings)
    (units : List OutputUnit) : Prop where
  /-- There is one unit for each package, in the order in which packages are first seen. -/
  packages : units.map (·.package) = (graphs.entities.map Entity.package).eraseDups
  /-- A unit has the tables of its package's entities, in the order of graphs and entities. -/
  tables : ∀ unit ∈ units,
    unit.tables.map (·.entity) = (graphs.entitiesIn unit.package).map Entity.key
  /-- Over the whole run, the tables are those of the entities, one for each. -/
  bijective : ((units.flatMap (·.tables)).map (·.entity)).Perm (graphs.entities.map Entity.key)
  /-- Each table is followed by the join tables that its entity owns, in the order of its
  associations, and then by the next table. -/
  blocks : ∀ unit ∈ units, unit.declarations =
    (List.zipWith Declaration.block unit.tables
      ((graphs.entitiesIn unit.package).map (graphs.joinTablesOf settings))).flatten

/-- A run that succeeds has one unit for each package; every entity has exactly one table, in
the unit of its package, and behind it the join tables that it owns. -/
theorem generateAll_tables {graphs : EntityGraphs} {settings : Settings}
    {units : List OutputUnit} (hunits : generateAll graphs settings = .ok units) :
    TablesPlaced graphs settings units := by
  let run := Run.over graphs settings
  have hrun : run.units = .ok units := hunits
  refine ⟨Run.units_map_package hrun, ?_, Run.flatMap_tables_perm hrun, ?_⟩
  · intro unit hunit
    exact Run.tables_map_entity (Run.unitOfPackage_of_mem hrun hunit)
  · intro unit hunit
    have howned : (graphs.entitiesIn unit.package).map run.ownedJoinTables =
        (graphs.entitiesIn unit.package).map (graphs.joinTablesOf settings) := by
      apply List.map_congr_left
      intro entity hentity
      exact Run.ownedJoinTables_eq (EntityGraphs.mem_entitiesIn.mp hentity).1
    rw [(Run.blocks_of_unitOfPackage (Run.unitOfPackage_of_mem hrun hunit)).2]
    exact congrArg (fun owned => (List.zipWith Declaration.block unit.tables owned).flatten) howned

/-- Two packages that alternate in two graphs.  The post declares two join tables, the first of
them before the tag does, and the author declares the second again. -/
def blogOfAuthors : EntityGraphs where
  graphs :=
    let id := IdField.named "id" NativeType.long.valueType
    let toMany (name : String) (target : EntityKey) : Association :=
      ⟨name, target, .manyToMany, id, none, true, none, none⟩
    [⟨"first", [
      { Entity.named "blog.Post" "posts" with
        id := some id, associations := [toMany "tags" "meta.Tag", toMany "authors" "blog.Author"] },
      { Entity.named "meta.Tag" "tags" with
        id := some id, associations := [toMany "posts" "blog.Post"] }]⟩,
    ⟨"second", [
      { Entity.named "blog.Author" "authors" with
        id := some id, associations := [toMany "posts" "blog.Post"] },
      { Entity.named "meta.Topic" "topics" with
        id := some id, associations := [toMany "tags" "meta.Tag"] }]⟩]
  nodup_keys := by decide
  target_mem := by decide

theorem blogOfAuthors_tables :
    ∃ units, generateAll blogOfAuthors {} = .ok units ∧
      units.map (fun unit => (unit.package, unit.declarations.map (·.objectName))) =
        [("blog", ["PostTable", "PostTagsTable", "PostAuthorsTable", "AuthorTable"]),
          ("meta", ["TagTable", "TopicTable", "TopicTagsTable"])] ∧
      TablesPlaced blogOfAuthors {} units := by
  have hrun : ∃ units, generateAll blogOfAuthors {} = .ok units ∧
      units.map (fun unit => (unit.package, unit.declarations.map (·.objectName))) =
        [("blog", ["PostTable", "PostTagsTable", "PostAuthorsTable", "AuthorTable"]),
          ("meta", ["TagTable", "TopicTable", "TopicTagsTable"])] := ⟨_, rfl, rfl⟩
  obtain ⟨units, hunits, hnames⟩ := hrun
  exact ⟨units, hunits, hnames, generateAll_tables hunits⟩

end EntityTables
