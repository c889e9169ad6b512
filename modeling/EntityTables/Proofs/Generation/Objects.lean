import EntityTables.Proofs.Generation.Tables
import EntityTables.Proofs.Model.Names

/-!
# The names of declared objects

The object of a table is named after its entity, and the object of a join table after its source
and the association that declares it, put together without anything in between.  Entities of one
package have different names, but nothing keeps a name that is put together from being that of an
entity, or from being put together in another way.

* `Declaration.objects_perm`: the objects of a unit are those of its tables and of its join tables;
* `Run.objects_of_unit`: both of these in terms of the entities of the package;
* `EntityGraphs.JoinNamesApart`: no name that is put together is met a second time;
* `generateAll_objectNames_nodup_iff`: the objects of every unit have different names if and only
  if the names of its join tables are apart.
-/

namespace EntityTables

theorem Settings.tableObject_inj {settings : Settings} {first second : String} :
    settings.tableObject first = settings.tableObject second ↔ first = second :=
  String.append_left_inj settings.tableSuffix

/-- What the object of a join table is named after. -/
def Entity.joinName (source : Entity) (association : Association) : String :=
  source.name ++ objectName association.name

theorem objectName_of_joinTableOf {settings : Settings} {source target : Entity}
    {association : Association} {table : JoinTable}
    (hbuilt : joinTableOf settings source association target = .ok table) :
    table.objectName = settings.tableObject (source.joinName association) := by
  obtain ⟨id, -, rfl⟩ := joinTableOf_eq_ok_iff.mp hbuilt
  rfl

namespace Declaration

/-- The entity that something is declared for: for a join table, its source. -/
def entity : Declaration → EntityKey
  | .table object => object.entity
  | .joinTable object => object.source

/-- Tables and join tables have the objects of all declarations, and their entities. -/
theorem objects_perm (declarations : List Declaration) :
    (declarations.map fun declaration => (declaration.entity, declaration.objectName)).Perm
      ((declarations.filterMap table?).map (fun table => (table.entity, table.objectName)) ++
        (declarations.filterMap joinTable?).map fun table => (table.source, table.objectName)) := by
  induction declarations with
  | nil => exact List.Perm.refl _
  | cons declaration declarations ih =>
      cases declaration with
      | table table => exact ih.cons _
      | joinTable table => exact (ih.cons _).trans List.perm_middle.symm

end Declaration

namespace EntityGraphs

/-- The associations of an entity that emit their join tables, with the entity. -/
def joinsOf (graphs : EntityGraphs) (entity : Entity) : List (Entity × Association) :=
  ((entity.associationsOf .manyToMany).filter (graphs.declaresFirst entity)).map (entity, ·)

/-- The associations of a package that emit their join tables. -/
def joinsIn (graphs : EntityGraphs) (package : String) : List (Entity × Association) :=
  (graphs.entitiesIn package).flatMap graphs.joinsOf

/-- What the objects of a package are named after, with the entities that they are declared for:
the entities of the package, and the join tables that it emits. -/
def objectsIn (graphs : EntityGraphs) (package : String) : List (Entity × String) :=
  (graphs.entitiesIn package).map (fun entity => (entity, entity.name)) ++
    (graphs.joinsIn package).map fun (entity, association) =>
      (entity, Entity.joinName entity association)

theorem mem_joinsIn {graphs : EntityGraphs} {package : String} {entity : Entity}
    {association : Association} :
    (entity, association) ∈ graphs.joinsIn package ↔
      entity ∈ graphs.entitiesIn package ∧ association ∈ entity.associations ∧
        association.kind = .manyToMany ∧ graphs.declaresFirst entity association := by
  simp only [joinsIn, joinsOf, Entity.associationsOf, List.mem_flatMap, List.mem_map, List.mem_filter,
    decide_eq_true_eq, Prod.mk.injEq]
  constructor
  · rintro ⟨_, hentity, _, ⟨⟨hassociation, hkind⟩, hfirst⟩, rfl, rfl⟩
    exact ⟨hentity, hassociation, hkind, hfirst⟩
  · rintro ⟨hentity, hassociation, hkind, hfirst⟩
    exact ⟨entity, hentity, association, ⟨⟨hassociation, hkind⟩, hfirst⟩, rfl, rfl⟩

/-- Objects are declared for entities of the graphs. -/
theorem entity_mem_of_objectsIn {graphs : EntityGraphs} {package : String}
    {object : Entity × String} (hobject : object ∈ graphs.objectsIn package) :
    object.1 ∈ graphs.entities := by
  rcases List.mem_append.mp hobject with htable | htable
  · obtain ⟨entity, hentity, rfl⟩ := List.mem_map.mp htable
    exact (mem_entitiesIn.mp hentity).1
  · obtain ⟨⟨entity, association⟩, hjoin, rfl⟩ := List.mem_map.mp htable
    exact (mem_entitiesIn.mp (mem_joinsIn.mp hjoin).1).1

/-- Where no entity has two associations of one name, a package does not emit for an association
twice. -/
theorem joinsIn_nodup {graphs : EntityGraphs}
    (hassociations : ∀ entity ∈ graphs.entities, (entity.associations.map (·.name)).Nodup)
    (package : String) : (graphs.joinsIn package).Nodup := by
  apply List.nodup_flatMap.mpr
  constructor
  · intro entity hentity
    have hnodup := (hassociations entity (mem_entitiesIn.mp hentity).1).of_map
    apply List.Nodup.map (fun _ _ heq => (Prod.mk.inj heq).2)
    exact (hnodup.filter _).filter _
  · apply (graphs.nodup_keys.of_map.filter _).imp
    intro first second hne pair hfirst hsecond
    obtain ⟨_, -, rfl⟩ := List.mem_map.mp hfirst
    obtain ⟨_, -, heq⟩ := List.mem_map.mp hsecond
    exact hne (Prod.mk.inj heq).1.symm

end EntityGraphs

namespace Run

variable {run : Run} {unit : OutputUnit} {units : List OutputUnit} {package : String}
  {entity : Entity}

/-! ## The objects of a unit -/

theorem objects_of_declares {tables : List Table} {entities : List Entity}
    (hdeclares : List.Forall₂ run.Declares tables entities) :
    tables.map (fun table => (table.entity, table.objectName)) =
      entities.map fun entity => (entity.key, run.settings.tableObject entity.name) := by
  induction hdeclares with
  | nil => rfl
  | cons hfirst _ ih =>
      rw [List.map_cons, List.map_cons, hfirst.entity_eq, hfirst.objectName_eq, ih]

/-- In a run that succeeds, the join table of every many-to-many association is built. -/
theorem exists_built (hunits : run.units = .ok units) (hentity : entity ∈ run.graphs.entities)
    {association : Association} (hassociation : association ∈ entity.associations)
    (hkind : association.kind = .manyToMany) {target : Entity}
    (htarget : run.graphs.entity? association.target = some target) :
    ∃ table, joinTableOf run.settings entity association target = .ok table := by
  -- otherwise the association would fail, and its entity with it
  obtain ⟨contribution, hcontribution⟩ := exists_contribution hunits hentity hassociation
  rw [contribution_manyToMany hkind htarget] at hcontribution
  obtain ⟨table, hbuilt, -⟩ := map_eq_ok_iff.mp hcontribution
  exact ⟨table, hbuilt⟩

/-- What can be said of every join table by the association that it is built for can be said of the
join tables that an entity emits. -/
theorem map_ownedJoinTables (hunits : run.units = .ok units)
    (hentity : entity ∈ run.graphs.entities) {α : Type} {ofTable : JoinTable → α}
    {ofJoin : Entity × Association → α}
    (hbuilt : ∀ entity association target table,
      run.graphs.entity? association.target = some target →
        joinTableOf run.settings entity association target = .ok table →
          ofTable table = ofJoin (entity, association)) :
    (run.ownedJoinTables entity).map ofTable = (run.graphs.joinsOf entity).map ofJoin := by
  rw [ownedJoinTables_eq hentity, EntityGraphs.joinTablesOf, EntityGraphs.joinsOf, List.map_map,
    List.map_filterMap, ← List.filterMap_eq_map]
  apply List.filterMap_congr
  intro association hassociation
  obtain ⟨hassociation, -⟩ := List.mem_filter.mp hassociation
  obtain ⟨hassociation, hkind⟩ := List.mem_filter.mp hassociation
  obtain ⟨target, -, htarget⟩ := EntityGraphs.exists_target hentity hassociation
  obtain ⟨table, htable⟩ :=
    exists_built hunits hentity hassociation (of_decide_eq_true hkind) htarget
  rw [htarget, Option.bind_some, htable]
  exact congrArg some (hbuilt _ _ _ _ htarget htable)

theorem objects_of_joinTables (hunits : run.units = .ok units) (hunit : unit ∈ units) :
    unit.joinTables.map (fun table => (table.source, table.objectName)) =
      (run.graphs.joinsIn unit.package).map fun (entity, association) =>
        (entity.key, run.settings.tableObject (entity.joinName association)) := by
  rw [joinTables_of_unitOfPackage (unitOfPackage_of_mem hunits hunit), EntityGraphs.joinsIn,
    List.map_flatMap, List.map_flatMap]
  apply List.flatMap_congr
  intro entity hentity
  apply map_ownedJoinTables hunits (EntityGraphs.mem_entitiesIn.mp hentity).1
  intro entity association target table _ htable
  rw [(key_of_joinTableOf htable).1, objectName_of_joinTableOf htable]

/-- The objects of a unit are named after the entities of its package and after the associations
that emit join tables there. -/
theorem objects_of_unit (hunits : run.units = .ok units) (hunit : unit ∈ units) :
    (unit.declarations.map fun declaration => (declaration.entity, declaration.objectName)).Perm
      ((run.graphs.objectsIn unit.package).map fun object =>
        (object.1.key, run.settings.tableObject object.2)) := by
  obtain ⟨hdeclares, -⟩ := blocks_of_unitOfPackage (unitOfPackage_of_mem hunits hunit)
  have htables := objects_of_declares hdeclares
  have hjoins := objects_of_joinTables hunits hunit
  refine (Declaration.objects_perm unit.declarations).trans (List.Perm.of_eq ?_)
  rw [EntityGraphs.objectsIn, List.map_append, List.map_map, List.map_map]
  exact congrArg₂ (· ++ ·) htables hjoins

theorem objectNames_of_unit (hunits : run.units = .ok units) (hunit : unit ∈ units) :
    (unit.declarations.map (·.objectName)).Perm
      (((run.graphs.objectsIn unit.package).map Prod.snd).map run.settings.tableObject) := by
  have hobjects := (objects_of_unit hunits hunit).map Prod.snd
  rw [List.map_map, List.map_map] at hobjects
  rw [List.map_map]
  exact hobjects

end Run

/-! ## Names that are put together -/

/-- The join tables that a package emits are named apart from its entities and from each other. -/
structure EntityGraphs.JoinNamesApart (graphs : EntityGraphs) (package : String) : Prop where
  /-- No entity is named like a join table. -/
  entities : ∀ other ∈ graphs.entitiesIn package, ∀ join ∈ graphs.joinsIn package,
    other.name ≠ join.1.joinName join.2
  /-- The associations of one entity differ in more than the case of the first character. -/
  sameSource : ∀ first ∈ graphs.joinsIn package, ∀ second ∈ graphs.joinsIn package,
    first.1 = second.1 → objectName first.2.name = objectName second.2.name → first = second
  /-- The names of different entities do not run into those of their associations. -/
  otherSource : ∀ first ∈ graphs.joinsIn package, ∀ second ∈ graphs.joinsIn package,
    first.1 ≠ second.1 → first.1.joinName first.2 ≠ second.1.joinName second.2

namespace EntityGraphs

variable {graphs : EntityGraphs} {package : String}

instance : Decidable (graphs.JoinNamesApart package) :=
  decidable_of_iff
    ((∀ other ∈ graphs.entitiesIn package, ∀ join ∈ graphs.joinsIn package,
        other.name ≠ join.1.joinName join.2) ∧
      (∀ first ∈ graphs.joinsIn package, ∀ second ∈ graphs.joinsIn package,
        first.1 = second.1 → objectName first.2.name = objectName second.2.name →
          first = second) ∧
      ∀ first ∈ graphs.joinsIn package, ∀ second ∈ graphs.joinsIn package,
        first.1 ≠ second.1 → first.1.joinName first.2 ≠ second.1.joinName second.2)
    ⟨fun ⟨hentities, hsame, hother⟩ => ⟨hentities, hsame, hother⟩,
      fun hapart => ⟨hapart.entities, hapart.sameSource, hapart.otherSource⟩⟩

/-- Names are apart if and only if no name belongs to an entity and a join table, or to two join
tables. -/
theorem joinNamesApart_iff :
    graphs.JoinNamesApart package ↔
      (∀ other ∈ graphs.entitiesIn package, ∀ join ∈ graphs.joinsIn package,
        other.name ≠ join.1.joinName join.2) ∧
      ∀ first ∈ graphs.joinsIn package, ∀ second ∈ graphs.joinsIn package,
        first.1.joinName first.2 = second.1.joinName second.2 → first = second := by
  constructor
  · intro hapart
    refine ⟨hapart.entities, ?_⟩
    intro first hfirst second hsecond hname
    by_cases hsource : first.1 = second.1
    · apply hapart.sameSource first hfirst second hsecond hsource
      rw [Entity.joinName, Entity.joinName, hsource] at hname
      exact (String.append_right_inj _).mp hname
    · exact absurd hname (hapart.otherSource first hfirst second hsecond hsource)
  · rintro ⟨hentities, hjoins⟩
    refine ⟨hentities, ?_, ?_⟩
    · intro first hfirst second hsecond hsource hname
      apply hjoins first hfirst second hsecond
      rw [Entity.joinName, Entity.joinName, hsource, hname]
    · intro first hfirst second hsecond hsource hname
      exact hsource (congrArg Prod.fst (hjoins first hfirst second hsecond hname))

/-- Where entities are identified by their names, all names of a package are different if and only
if those of its join tables are apart. -/
theorem objectsIn_nodup_iff (hnames : graphs.NamedByKeys)
    (hqualified : ∀ entity ∈ graphs.entities, WellQualified entity.qualifiedName)
    (hassociations : ∀ entity ∈ graphs.entities, (entity.associations.map (·.name)).Nodup) :
    ((graphs.objectsIn package).map Prod.snd).Nodup ↔ graphs.JoinNamesApart package := by
  have hsplit : (graphs.objectsIn package).map Prod.snd =
      (graphs.entitiesIn package).map Entity.name ++
        (graphs.joinsIn package).map fun (entity, association) =>
          Entity.joinName entity association := by
    rw [objectsIn, List.map_append, List.map_map, List.map_map]
    rfl
  have hentities : ((graphs.entitiesIn package).map Entity.name).Nodup := by
    apply (graphs.nodup_keys.of_map.filter _).map_on
    intro entity hentity other hother
    obtain ⟨hentity, hpackage⟩ := mem_entitiesIn.mp hentity
    obtain ⟨hother, hotherPackage⟩ := mem_entitiesIn.mp hother
    exact eq_of_name_eq hnames hqualified hentity hother (hpackage.trans hotherPackage.symm)
  rw [hsplit, joinNamesApart_iff, List.nodup_append', List.nodup_map_iff_inj_on
    (joinsIn_nodup hassociations package)]
  constructor
  · rintro ⟨-, hjoins, hdisjoint⟩
    refine ⟨?_, hjoins⟩
    intro other hother join hjoin hname
    exact hdisjoint (List.mem_map_of_mem hother) (List.mem_map.mpr ⟨join, hjoin, hname.symm⟩)
  · rintro ⟨happart, hjoins⟩
    refine ⟨hentities, hjoins, ?_⟩
    intro name hentity hjoin
    obtain ⟨other, hother, rfl⟩ := List.mem_map.mp hentity
    obtain ⟨join, hjoin, hname⟩ := List.mem_map.mp hjoin
    exact happart other hother join hjoin hname.symm

end EntityGraphs

/-! ## A run -/

/-- Where entities are named by the last segments of their qualified names and no entity has two
associations of one name, the objects of every unit have different names if and only if the names
of the join tables of every package are apart. -/
theorem generateAll_objectNames_nodup_iff {graphs : EntityGraphs} {settings : Settings}
    {units : List OutputUnit} (hunits : generateAll graphs settings = .ok units)
    (hnames : graphs.NamedByKeys)
    (hqualified : ∀ entity ∈ graphs.entities, WellQualified entity.qualifiedName)
    (hassociations : ∀ entity ∈ graphs.entities, (entity.associations.map (·.name)).Nodup) :
    (∀ unit ∈ units, (unit.declarations.map (·.objectName)).Nodup) ↔
      ∀ package ∈ graphs.packages, graphs.JoinNamesApart package := by
  let run := Run.over graphs settings
  have hrun : run.units = .ok units := hunits
  have hunit : ∀ unit ∈ units, (unit.declarations.map (·.objectName)).Nodup ↔
      graphs.JoinNamesApart unit.package := by
    intro unit hunit
    rw [(Run.objectNames_of_unit hrun hunit).nodup_iff,
      List.nodup_map_iff fun _ _ heq => Settings.tableObject_inj.mp heq]
    exact EntityGraphs.objectsIn_nodup_iff hnames hqualified hassociations
  have hpackages : graphs.packages = units.map (·.package) := (Run.units_map_package hrun).symm
  rw [hpackages, List.forall_mem_map]
  exact forall₂_congr hunit

theorem blogOfAuthors_objectNames_nodup :
    ∃ units, generateAll blogOfAuthors {} = .ok units ∧
      ∀ unit ∈ units, (unit.declarations.map (·.objectName)).Nodup := by
  have hrun : ∃ units, generateAll blogOfAuthors {} = .ok units := ⟨_, rfl⟩
  obtain ⟨units, hunits⟩ := hrun
  have hapart : ∀ package ∈ blogOfAuthors.packages, blogOfAuthors.JoinNamesApart package := by
    decide +kernel
  exact ⟨units, hunits, (generateAll_objectNames_nodup_iff hunits (by decide +kernel)
    (by decide +kernel) (by decide +kernel)).mpr hapart⟩

/-- A post with tags, and an entity that is named like the join table between them. -/
def blogOfPostTags : EntityGraphs where
  graphs :=
    let id := IdField.named "id" NativeType.long.valueType
    let tags : Association := ⟨"tags", "blog.Tag", .manyToMany, id, none, true, none, none⟩
    [⟨"blog", [
      { Entity.named "blog.Post" "posts" with id := some id, associations := [tags] },
      { Entity.named "blog.Tag" "tags" with id := some id },
      { Entity.named "blog.PostTags" "post_tags" with id := some id }]⟩]
  nodup_keys := by decide
  target_mem := by decide

/-- Different entities and different associations do not keep two objects from having one name. -/
theorem blogOfPostTags_objectNames_repeated :
    blogOfPostTags.NamedByKeys ∧
      (∀ entity ∈ blogOfPostTags.entities, WellQualified entity.qualifiedName) ∧
      (∀ entity ∈ blogOfPostTags.entities, (entity.associations.map (·.name)).Nodup) ∧
      Settings.checked {} = .ok {} ∧
      ∃ units, generateAll blogOfPostTags {} = .ok units ∧
        ¬∀ unit ∈ units, (unit.declarations.map (·.objectName)).Nodup := by
  refine ⟨by decide +kernel, by decide +kernel, by decide +kernel, rfl, ?_⟩
  have hrun : ∃ units, generateAll blogOfPostTags {} = .ok units ∧
      units.map (fun unit => unit.declarations.map (·.objectName)) =
        [["PostTable", "PostTagsTable", "TagTable", "PostTagsTable"]] := ⟨_, rfl, rfl⟩
  obtain ⟨units, hunits, hnames⟩ := hrun
  refine ⟨units, hunits, ?_⟩
  rw [← List.forall_mem_map (P := List.Nodup), hnames]
  decide

end EntityTables
