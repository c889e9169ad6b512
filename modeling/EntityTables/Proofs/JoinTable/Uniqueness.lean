import EntityTables.Proofs.JoinTable.Ownership

/-!
# How often a join table is emitted

The owner of a join table is remembered as an entity and the name of an association, and nothing
keeps two associations of an entity from having the same name.  When both declare the join table
that they own, both emit it; this is the only way in which a run emits a join table twice.

* `EntityGraphs.OwnersDeclareOnce`: no owner declares its join table a second time;
* `map_key_ownedJoinTables`: the keys that an entity emits are those of its declarations that are
  attributed to their owner;
* `generateAll_joinTables_nodup_iff`: a run emits no join table twice if and only if owners
  declare once.
-/

namespace EntityTables
namespace EntityGraphs

/-- Whether a declaration is attributed to the owner of its join table. -/
def isOwned (graphs : EntityGraphs) (declaration : JoinKey × JoinOwner) : Bool :=
  graphs.joinDeclarations.lookup declaration.1 = some declaration.2

/-- No entity that declares a join table first declares it again in an association of the same
name. -/
def OwnersDeclareOnce (graphs : EntityGraphs) : Prop :=
  ∀ declaration ∈ graphs.joinDeclarations, graphs.isOwned declaration →
    graphs.joinDeclarations.count declaration = 1

instance (graphs : EntityGraphs) : Decidable graphs.OwnersDeclareOnce :=
  inferInstanceAs (Decidable (∀ declaration ∈ graphs.joinDeclarations,
    graphs.isOwned declaration → graphs.joinDeclarations.count declaration = 1))

/-- Two declarations that are attributed to the owner of the same join table are equal. -/
theorem eq_of_isOwned {graphs : EntityGraphs} {first second : JoinKey × JoinOwner}
    (hfirst : graphs.isOwned first) (hsecond : graphs.isOwned second)
    (hkey : first.1 = second.1) : first = second := by
  simp only [isOwned, decide_eq_true_eq] at hfirst hsecond
  rw [hkey, hsecond] at hfirst
  exact Prod.ext hkey (Option.some.inj hfirst).symm

/-- The owned declarations have different keys if and only if owners declare once. -/
theorem nodup_owned_iff (graphs : EntityGraphs) :
    ((graphs.joinDeclarations.filter graphs.isOwned).map Prod.fst).Nodup ↔
      graphs.OwnersDeclareOnce := by
  -- among owned declarations the key determines the owner, so keys repeat as declarations do
  have hkeys : ((graphs.joinDeclarations.filter graphs.isOwned).map Prod.fst).Nodup ↔
      (graphs.joinDeclarations.filter graphs.isOwned).Nodup := by
    constructor
    · exact List.Nodup.of_map _
    · intro hnodup
      apply (List.nodup_map_iff_inj_on hnodup).mpr
      intro first hfirst second hsecond hkey
      exact eq_of_isOwned (List.mem_filter.mp hfirst).2 (List.mem_filter.mp hsecond).2 hkey
  rw [hkeys, List.nodup_iff_count_eq_one]
  constructor
  · intro hcount declaration hmem howned
    rw [← List.count_filter howned]
    exact hcount declaration (List.mem_filter.mpr ⟨hmem, howned⟩)
  · intro honce declaration hmem
    obtain ⟨hmem, howned⟩ := List.mem_filter.mp hmem
    rw [List.count_filter howned]
    exact honce declaration hmem howned

end EntityGraphs

namespace Run

variable {run : Run} {units : List OutputUnit} {entity : Entity} {association : Association}

/-- An association of a declared key owns its table if the declaration is attributed to the owner
of the key. -/
theorem ownsJoinTable_eq_isOwned {table : JoinTable} (hentity : entity ∈ run.graphs.entities)
    (hassociation : association ∈ entity.associations) (hkind : association.kind = .manyToMany)
    (hkey : run.graphs.joinKey? entity association = some table.key) :
    ownsJoinTable run.joinDeclarations entity association table =
      run.graphs.isOwned (table.key, ⟨entity.key, association.name⟩) := by
  obtain ⟨key, first, firstAssociation, hsame, hfirst⟩ :=
    EntityGraphs.exists_firstDeclaration hentity hassociation hkind
  obtain rfl : key = table.key := Option.some.inj (hsame.symm.trans hkey)
  simp only [ownsJoinTable, EntityGraphs.isOwned, run.joinDeclarations_eq,
    EntityGraphs.lookup_joinDeclarations, hfirst, Option.map_some, Option.some.injEq]

/-- An association emits the key that it declares if it is attributed to the owner of the key. -/
theorem key_of_contribution (hunits : run.units = .ok units)
    (hentity : entity ∈ run.graphs.entities) (hassociation : association ∈ entity.associations) :
    ((run.contribution entity association).toOption.bind (·.joinTable?)).map JoinTable.key =
      ((if association.kind = .manyToMany then
        (run.graphs.joinKey? entity association).map (·, ⟨entity.key, association.name⟩)
      else none).filter run.graphs.isOwned).map Prod.fst := by
  obtain ⟨contribution, hcontribution⟩ := exists_contribution hunits hentity hassociation
  by_cases hkind : association.kind = .manyToMany
  · obtain ⟨target, _, htarget⟩ := EntityGraphs.exists_target hentity hassociation
    rw [contribution_manyToMany hkind htarget] at hcontribution ⊢
    cases htable : joinTableOf run.settings entity association target with
    | error error => simp [htable, Except.map] at hcontribution
    | ok table =>
        have hkey := EntityGraphs.joinKey?_of_built htarget htable
        rw [if_pos hkind, hkey, Except.map,
          ownsJoinTable_eq_isOwned hentity hassociation hkind hkey]
        cases howned : run.graphs.isOwned (table.key, ⟨entity.key, association.name⟩) <;>
          simp [Except.toOption, Contribution.joinTable?, Option.filter, howned]
  · rw [if_neg hkind, joinTable?_of_kind_ne hkind]
    rfl

theorem map_key_ownedJoinTables (hunits : run.units = .ok units)
    (hentity : entity ∈ run.graphs.entities) :
    (run.ownedJoinTables entity).map JoinTable.key =
      ((run.graphs.joinDeclarationsOf entity).filter run.graphs.isOwned).map Prod.fst := by
  rw [EntityGraphs.joinDeclarationsOf_eq, Entity.associationsOf, List.filterMap_filter,
    List.filter_filterMap, List.map_filterMap, ownedJoinTables, List.map_filterMap]
  apply List.filterMap_congr
  intro association hassociation
  simpa using key_of_contribution hunits hentity hassociation

end Run

/-- A run emits no join table twice if and only if no entity that declares a join table first
declares it again in an association of the same name. -/
theorem generateAll_joinTables_nodup_iff {graphs : EntityGraphs} {settings : Settings}
    {units : List OutputUnit} (hunits : generateAll graphs settings = .ok units) :
    ((units.flatMap (·.joinTables)).map JoinTable.key).Nodup ↔ graphs.OwnersDeclareOnce := by
  let run := Run.over graphs settings
  have hrun : run.units = .ok units := hunits
  have howned : (graphs.entities.flatMap run.ownedJoinTables).map JoinTable.key =
      (graphs.joinDeclarations.filter graphs.isOwned).map Prod.fst := by
    rw [EntityGraphs.joinDeclarations, List.map_flatMap, List.filter_flatMap, List.map_flatMap]
    apply List.flatMap_congr
    intro entity hentity
    exact Run.map_key_ownedJoinTables hrun hentity
  rw [((Run.flatMap_joinTables_perm hrun).map JoinTable.key).nodup_iff]
  exact howned ▸ graphs.nodup_owned_iff

/-- A post with two associations of one name that declare the same join table. -/
def blogOfTwins : EntityGraphs where
  graphs :=
    let id := IdField.named "id" NativeType.long.valueType
    let tags : Association :=
      ⟨"tags", "blog.Tag", .manyToMany, id, none, true, none, some "post_tags"⟩
    [⟨"blog", [
      { Entity.named "blog.Post" "posts" with id := some id, associations := [tags, tags] },
      { Entity.named "blog.Tag" "tags" with id := some id }]⟩]
  nodup_keys := by decide
  target_mem := by decide

theorem blogOfTwins_emits_twice :
    ∃ units, generateAll blogOfTwins {} = .ok units ∧
      ¬((units.flatMap (·.joinTables)).map JoinTable.key).Nodup := by
  have hrun : ∃ units, generateAll blogOfTwins {} = .ok units ∧
      (units.flatMap (·.joinTables)).map JoinTable.key =
        [⟨"blog.Post", "blog.Tag", "post_tags"⟩, ⟨"blog.Post", "blog.Tag", "post_tags"⟩] :=
    ⟨_, rfl, rfl⟩
  obtain ⟨units, hunits, hkeys⟩ := hrun
  exact ⟨units, hunits, by rw [hkeys]; decide⟩

/-- The two sides of an association declare one join table, which is emitted once. -/
theorem blogOfTwoPackages_emits_once :
    ∃ units, generateAll blogOfTwoPackages {} = .ok units ∧
      ((units.flatMap (·.joinTables)).map JoinTable.key).Nodup := by
  have hrun : ∃ units, generateAll blogOfTwoPackages {} = .ok units := ⟨_, rfl⟩
  obtain ⟨units, hunits⟩ := hrun
  exact ⟨units, hunits, (generateAll_joinTables_nodup_iff hunits).mpr (by decide +kernel)⟩

end EntityTables
