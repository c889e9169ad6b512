import EntityTables.Proofs.Generation.Tables

/-!
# The two sides of a join table

A join table that is declared again is left to its owner, the association that declares it first.
The second declaration may come from the other side of the relation, or from an entity that is
associated with itself.  But the identity of a join table does not tell from which side it was
declared, so it may also come from another association of the owner's entity with the same target;
then two relations are stored in one join table.

* `EntityGraphs.joinKey?_eq_iff`: when two associations declare the same join table;
* `Run.leaves_iff`: which association leaves its join table to which other one;
* `Run.leaves_to_otherSide_iff`: join tables are left to the other side alone if and only if no
  owner has a second association that declares the same join table;
* `Run.keepsApart_iff`: the relations of an entity are kept apart if and only if no two of its
  associations declare the same join table;
* `generateAll_sides_iff`: both of these for a run.
-/

namespace EntityTables

/-- The many-to-many associations of an entity with other entities. -/
def Entity.manyToOthers (entity : Entity) : List Association :=
  (entity.associationsOf .manyToMany).filter (·.target ≠ entity.key)

theorem Entity.mem_manyToOthers {entity : Entity} {association : Association} :
    association ∈ entity.manyToOthers ↔ association ∈ entity.associations ∧
      association.kind = .manyToMany ∧ association.target ≠ entity.key := by
  rw [manyToOthers, associationsOf, List.mem_filter, List.mem_filter, decide_eq_true_iff,
    decide_eq_true_iff, and_assoc]

namespace EntityGraphs

variable {graphs : EntityGraphs} {entity other : Entity}
  {association otherAssociation : Association}

/-! ## Declaring the same join table -/

/-- The name of the join table of an association. -/
def joinTableName? (graphs : EntityGraphs) (entity : Entity) (association : Association) :
    Option String :=
  (graphs.entity? association.target).map (joinTableName entity association)

/-- Two associations declare the same join table if they give it the same name and are between the
same entities, seen from the same side or from the two sides. -/
theorem joinKey?_eq_iff (hentity : entity ∈ graphs.entities)
    (hassociation : association ∈ entity.associations) (hother : other ∈ graphs.entities)
    (hotherAssociation : otherAssociation ∈ other.associations) :
    graphs.joinKey? entity association = graphs.joinKey? other otherAssociation ↔
      (entity.key = other.key ∧ association.target = otherAssociation.target ∨
          entity.key = otherAssociation.target ∧ association.target = other.key) ∧
        graphs.joinTableName? entity association =
          graphs.joinTableName? other otherAssociation := by
  obtain ⟨target, -, htarget⟩ := exists_target hentity hassociation
  obtain ⟨otherTarget, -, hotherTarget⟩ := exists_target hother hotherAssociation
  have hkey : target.key = association.target := (entity?_eq_some_iff.mp htarget).2
  have hotherKey : otherTarget.key = otherAssociation.target :=
    (entity?_eq_some_iff.mp hotherTarget).2
  simp only [joinKey?, joinTableName?, htarget, hotherTarget, Option.map_some, Option.some.injEq,
    JoinKey.of_eq_of_iff, hkey, hotherKey]

/-- Two associations of an entity have the same target and the same name of a join table. -/
def SameJoinTable (graphs : EntityGraphs) (entity : Entity) (first second : Association) : Prop :=
  first.target = second.target ∧
    graphs.joinTableName? entity first = graphs.joinTableName? entity second

instance (graphs : EntityGraphs) (entity : Entity) (first second : Association) :
    Decidable (graphs.SameJoinTable entity first second) :=
  inferInstanceAs (Decidable (_ ∧ _))

/-- This is how the associations of an entity with other entities declare the same join table. -/
theorem joinKey?_eq_iff_sameJoinTable {first second : Association}
    (hentity : entity ∈ graphs.entities) (hfirst : first ∈ entity.manyToOthers)
    (hsecond : second ∈ entity.manyToOthers) :
    graphs.joinKey? entity first = graphs.joinKey? entity second ↔
      graphs.SameJoinTable entity first second := by
  obtain ⟨hfirst, -, hother⟩ := Entity.mem_manyToOthers.mp hfirst
  rw [joinKey?_eq_iff hentity hfirst hentity (Entity.mem_manyToOthers.mp hsecond).1, SameJoinTable]
  apply and_congr_left
  intro _
  constructor
  · rintro (⟨-, htargets⟩ | ⟨-, hself⟩)
    · exact htargets
    · exact absurd hself hother
  · intro htargets
    exact .inl ⟨rfl, htargets⟩

/-- No two associations of an entity with others declare the same join table. -/
def DeclaresApart (graphs : EntityGraphs) : Prop :=
  ∀ entity ∈ graphs.entities, ∀ first ∈ entity.manyToOthers, ∀ second ∈ entity.manyToOthers,
    graphs.SameJoinTable entity first second → first = second

instance (graphs : EntityGraphs) : Decidable graphs.DeclaresApart :=
  inferInstanceAs (Decidable (∀ entity ∈ graphs.entities, ∀ first ∈ entity.manyToOthers,
    ∀ second ∈ entity.manyToOthers, graphs.SameJoinTable entity first second → first = second))

/-- No association that owns a join table with another entity has a second one beside it that
declares the same join table. -/
def OwnsApart (graphs : EntityGraphs) : Prop :=
  ∀ entity ∈ graphs.entities, ∀ owner ∈ entity.manyToOthers, graphs.declaresFirst entity owner →
    ∀ second ∈ entity.manyToOthers, graphs.SameJoinTable entity owner second → owner = second

instance (graphs : EntityGraphs) : Decidable graphs.OwnsApart :=
  inferInstanceAs (Decidable (∀ entity ∈ graphs.entities, ∀ owner ∈ entity.manyToOthers,
    graphs.declaresFirst entity owner → ∀ second ∈ entity.manyToOthers,
      graphs.SameJoinTable entity owner second → owner = second))

/-- In an entity without two associations of one name, an association that declares its join table
first is the first declaration itself. -/
theorem declaresFirst_iff (hentity : entity ∈ graphs.entities)
    (hassociation : association ∈ entity.associations)
    (hnames : (entity.associations.map (·.name)).Nodup) :
    graphs.declaresFirst entity association ↔
      (graphs.joinKey? entity association).bind graphs.firstDeclaration? =
        some (entity, association) := by
  rw [declaresFirst]
  cases hfirst : (graphs.joinKey? entity association).bind graphs.firstDeclaration? with
  | none => simp
  | some declared =>
      obtain ⟨first, firstAssociation⟩ := declared
      obtain ⟨key, -, hdeclared⟩ := Option.bind_eq_some_iff.mp hfirst
      obtain ⟨hmem, hdeclares, -, -⟩ := firstDeclaration?_sound hdeclared
      simp only [Option.any_some, Bool.and_eq_true, decide_eq_true_eq, Option.some.injEq,
        Prod.mk.injEq]
      constructor
      · rintro ⟨hkey, hname⟩
        obtain rfl := eq_of_key_eq hmem hentity hkey
        exact ⟨rfl, List.inj_on_of_nodup_map hnames hdeclares hassociation hname⟩
      · rintro ⟨rfl, rfl⟩
        exact ⟨rfl, rfl⟩

end EntityGraphs

/-! ## Leaving a join table to its owner -/

/-- An owner of a join table is the other side of an association. -/
structure OtherSide (entity : Entity) (association : Association) (owner : Entity)
    (ownerAssociation : Association) : Prop where
  target_eq : association.target = owner.key
  owner_target_eq : ownerAssociation.target = entity.key
  /-- Only an entity that is associated with itself is on both sides. -/
  self_of_eq : owner = entity → association.target = entity.key

namespace Run

variable {run : Run} {units : List OutputUnit} {entity owner : Entity}
  {association ownerAssociation : Association} {table : JoinTable}

/-- An association does not emit its join table, because another one owns it. -/
def Leaves (run : Run) (entity : Entity) (association : Association) (owner : Entity)
    (ownerAssociation : Association) : Prop :=
  ∃ table, run.contribution entity association = .ok (.ownedElsewhere table) ∧
    run.joinDeclarations.lookup table.key = some ⟨owner.key, ownerAssociation.name⟩

/-- A join table is left to its owner by a many-to-many association that does not own it. -/
theorem contribution_eq_ownedElsewhere_iff (hentity : entity ∈ run.graphs.entities)
    (hassociation : association ∈ entity.associations) :
    run.contribution entity association = .ok (.ownedElsewhere table) ↔
      association.kind = .manyToMany ∧
        (∃ target, run.graphs.entity? association.target = some target ∧
          joinTableOf run.settings entity association target = .ok table) ∧
        ownsJoinTable run.joinDeclarations entity association table = false := by
  obtain ⟨target, _, htarget⟩ := EntityGraphs.exists_target hentity hassociation
  by_cases hkind : association.kind = .manyToMany
  · simp only [contribution_manyToMany hkind htarget, map_eq_ok_iff, hkind, htarget,
      Option.some.injEq, exists_eq_left', true_and]
    constructor
    · rintro ⟨built, hbuilt, heq⟩
      split at heq
      · contradiction
      · rename_i howns
        obtain rfl := Contribution.ownedElsewhere.inj heq
        exact ⟨hbuilt, Bool.eq_false_iff.mpr howns⟩
    · rintro ⟨hbuilt, howns⟩
      exact ⟨table, hbuilt, by rw [howns, if_neg Bool.false_ne_true]⟩
  · apply iff_of_false
    · rw [contribution_of_target htarget, if_neg hkind]
      split
      · rw [map_eq_ok_iff]
        rintro ⟨column, -, heq⟩
        contradiction
      · simp
    · rintro ⟨hmany, -⟩
      exact hkind hmany

/-- A many-to-many association leaves its join table to the first declaration of the table, unless
this is the association itself. -/
theorem leaves_iff (hunits : run.units = .ok units)
    (hnames : ∀ entity ∈ run.graphs.entities, (entity.associations.map (·.name)).Nodup)
    (hentity : entity ∈ run.graphs.entities) (hassociation : association ∈ entity.associations)
    (howner : owner ∈ run.graphs.entities)
    (hownerAssociation : ownerAssociation ∈ owner.associations) :
    run.Leaves entity association owner ownerAssociation ↔
      association.kind = .manyToMany ∧
        (run.graphs.joinKey? entity association).bind run.graphs.firstDeclaration? =
          some (owner, ownerAssociation) ∧
        ¬(owner = entity ∧ ownerAssociation = association) := by
  constructor
  · rintro ⟨table, hcontribution, hlookup⟩
    obtain ⟨hkind, ⟨target, htarget, hbuilt⟩, howns⟩ :=
      (contribution_eq_ownedElsewhere_iff hentity hassociation).mp hcontribution
    have hkey := EntityGraphs.joinKey?_of_built htarget hbuilt
    rw [run.joinDeclarations_eq, EntityGraphs.lookup_joinDeclarations,
      Option.map_eq_some_iff] at hlookup
    obtain ⟨⟨first, firstAssociation⟩, hfirst, hsame⟩ := hlookup
    obtain ⟨hfirstKey, hfirstName⟩ := JoinOwner.mk.inj hsame
    obtain ⟨hmem, hdeclares, -, -⟩ := EntityGraphs.firstDeclaration?_sound hfirst
    -- the owner is known by key and name only, and these tell the declaration
    obtain rfl := EntityGraphs.eq_of_key_eq hmem howner hfirstKey
    obtain rfl :=
      List.inj_on_of_nodup_map (hnames first hmem) hdeclares hownerAssociation hfirstName
    refine ⟨hkind, by rw [hkey, Option.bind_some, hfirst], ?_⟩
    rintro ⟨rfl, rfl⟩
    exact Bool.false_ne_true (howns.symm.trans ((ownsJoinTable_iff hentity hfirst).mpr ⟨rfl, rfl⟩))
  · rintro ⟨hkind, hdeclared, hother⟩
    obtain ⟨key, hkey, hfirst⟩ := Option.bind_eq_some_iff.mp hdeclared
    obtain ⟨contribution, hcontribution⟩ := exists_contribution hunits hentity hassociation
    obtain ⟨target, -, htarget⟩ := EntityGraphs.exists_target hentity hassociation
    rw [contribution_manyToMany hkind htarget] at hcontribution
    obtain ⟨table, hbuilt, -⟩ := map_eq_ok_iff.mp hcontribution
    obtain rfl : key = table.key :=
      Option.some.inj (hkey.symm.trans (EntityGraphs.joinKey?_of_built htarget hbuilt))
    have howns : ownsJoinTable run.joinDeclarations entity association table = false := by
      rw [Bool.eq_false_iff, Ne, ownsJoinTable_iff hentity hfirst]
      rintro ⟨rfl, hname⟩
      exact hother ⟨rfl, List.inj_on_of_nodup_map (hnames owner howner) hownerAssociation
        hassociation hname⟩
    refine ⟨table, (contribution_eq_ownedElsewhere_iff hentity hassociation).mpr
      ⟨hkind, ⟨target, htarget, hbuilt⟩, howns⟩, ?_⟩
    rw [run.joinDeclarations_eq, EntityGraphs.lookup_joinDeclarations, hfirst, Option.map_some]

/-- Join tables are left to the other side alone if and only if no owner has a second association
that declares the same join table. -/
theorem leaves_to_otherSide_iff (hunits : run.units = .ok units)
    (hnames : ∀ entity ∈ run.graphs.entities, (entity.associations.map (·.name)).Nodup) :
    (∀ entity ∈ run.graphs.entities, ∀ association ∈ entity.associations,
      ∀ owner ∈ run.graphs.entities, ∀ ownerAssociation ∈ owner.associations,
        run.Leaves entity association owner ownerAssociation →
          OtherSide entity association owner ownerAssociation) ↔
      run.graphs.OwnsApart := by
  constructor
  · intro hsides entity hentity owner howner hfirst second hsecond hsame
    obtain ⟨hmem, -, -⟩ := Entity.mem_manyToOthers.mp howner
    obtain ⟨hsecondMem, hkind, hother⟩ := Entity.mem_manyToOthers.mp hsecond
    have hkey := (EntityGraphs.joinKey?_eq_iff_sameJoinTable hentity howner hsecond).mpr hsame
    have hdeclared :=
      (EntityGraphs.declaresFirst_iff hentity hmem (hnames entity hentity)).mp hfirst
    by_contra hne
    have hleaves : run.Leaves entity second entity owner :=
      (leaves_iff hunits hnames hentity hsecondMem hentity hmem).mpr
        ⟨hkind, hkey ▸ hdeclared, fun ⟨_, heq⟩ => hne heq⟩
    have hside := hsides entity hentity second hsecondMem entity hentity owner hmem hleaves
    exact hother hside.target_eq
  · intro hapart entity hentity association hassociation owner howner ownerAssociation
      hownerAssociation hleaves
    obtain ⟨hkind, hdeclared, hother⟩ :=
      (leaves_iff hunits hnames hentity hassociation howner hownerAssociation).mp hleaves
    obtain ⟨key, hkey, hfirst⟩ := Option.bind_eq_some_iff.mp hdeclared
    obtain ⟨-, -, hownerKind, hownerKey⟩ := EntityGraphs.firstDeclaration?_sound hfirst
    obtain ⟨⟨hsource, htargets⟩ | ⟨hsource, htarget⟩, hname⟩ :=
      (EntityGraphs.joinKey?_eq_iff hentity hassociation howner hownerAssociation).mp
        (hkey.trans hownerKey.symm)
    · obtain rfl := EntityGraphs.eq_of_key_eq hentity howner hsource
      by_cases hself : association.target = entity.key
      · exact ⟨hself, htargets.symm.trans hself, fun _ => hself⟩
      · -- a second association with the same target, which is not the entity itself
        have howns : ownerAssociation ∈ entity.manyToOthers :=
          Entity.mem_manyToOthers.mpr ⟨hownerAssociation, hownerKind, htargets ▸ hself⟩
        have hfirsts : run.graphs.declaresFirst entity ownerAssociation :=
          (EntityGraphs.declaresFirst_iff hentity hownerAssociation (hnames entity hentity)).mpr
            (by rw [hownerKey, Option.bind_some, hfirst])
        have heq := hapart entity hentity ownerAssociation howns hfirsts association
          (Entity.mem_manyToOthers.mpr ⟨hassociation, hkind, hself⟩)
          ⟨htargets.symm, hname.symm⟩
        exact absurd ⟨rfl, heq⟩ hother
    · exact ⟨htarget, hsource.symm, fun heq => htarget.trans (congrArg Entity.key heq)⟩

/-- The associations of an entity with others are stored in different join tables if and only if no
two of them declare the same one. -/
theorem keepsApart_iff (hunits : run.units = .ok units) :
    (∀ entity ∈ run.graphs.entities, ∀ first ∈ entity.manyToOthers,
      ∀ second ∈ entity.manyToOthers, first ≠ second →
        ∀ table ∈ units.flatMap (·.joinTables),
          ¬(run.graphs.joinKey? entity first = some table.key ∧
            run.graphs.joinKey? entity second = some table.key)) ↔
      run.graphs.DeclaresApart := by
  constructor
  · intro happart entity hentity first hfirst second hsecond hsame
    obtain ⟨hmem, hkind, -⟩ := Entity.mem_manyToOthers.mp hfirst
    obtain ⟨key, -, -, hkey, -⟩ := EntityGraphs.exists_firstDeclaration hentity hmem hkind
    -- what is declared is emitted, by the owner at the least
    obtain ⟨table, htable, rfl⟩ := List.mem_map.mp
      ((mem_joinKeys_iff hunits).mpr ⟨entity, hentity, first, hmem, hkind, hkey⟩)
    have hsameKey := (EntityGraphs.joinKey?_eq_iff_sameJoinTable hentity hfirst hsecond).mpr hsame
    by_contra hne
    exact happart entity hentity first hfirst second hsecond hne table htable
      ⟨hkey, hsameKey.symm.trans hkey⟩
  · rintro hdeclares entity hentity first hfirst second hsecond hne table - ⟨hkey, hsecondKey⟩
    have hsame := (EntityGraphs.joinKey?_eq_iff_sameJoinTable hentity hfirst hsecond).mp
      (hkey.trans hsecondKey.symm)
    exact hne (hdeclares entity hentity first hfirst second hsecond hsame)

end Run

/-! ## A run -/

/-- In a run over entities without two associations of one name, join tables are left to the other
side alone if and only if no owner has a second association that declares the same join table; and
no two relations of an entity with others are stored in one join table if and only if no two of its
associations declare the same one. -/
theorem generateAll_sides_iff {graphs : EntityGraphs} {settings : Settings}
    {units : List OutputUnit}
    (hnames : ∀ entity ∈ graphs.entities, (entity.associations.map (·.name)).Nodup)
    (hunits : generateAll graphs settings = .ok units) :
    ((∀ entity ∈ graphs.entities, ∀ association ∈ entity.associations,
        ∀ owner ∈ graphs.entities, ∀ ownerAssociation ∈ owner.associations,
          (Run.over graphs settings).Leaves entity association owner ownerAssociation →
            OtherSide entity association owner ownerAssociation) ↔
        graphs.OwnsApart) ∧
      ((∀ entity ∈ graphs.entities, ∀ first ∈ entity.manyToOthers,
        ∀ second ∈ entity.manyToOthers, first ≠ second →
          ∀ table ∈ units.flatMap (·.joinTables),
            ¬(graphs.joinKey? entity first = some table.key ∧
              graphs.joinKey? entity second = some table.key)) ↔
        graphs.DeclaresApart) :=
  have hrun : (Run.over graphs settings).units = .ok units := hunits
  ⟨Run.leaves_to_otherSide_iff hrun hnames, Run.keepsApart_iff hrun⟩

/-- A post with two associations with tags, neither of which names its join table. -/
def blogOfLabels : EntityGraphs where
  graphs :=
    let id := IdField.named "id" NativeType.long.valueType
    let toTags (name : String) : Association :=
      ⟨name, "blog.Tag", .manyToMany, id, none, true, none, none⟩
    [⟨"blog", [
      { Entity.named "blog.Post" "posts" with
        id := some id, associations := [toTags "tags", toTags "labels"] },
      { Entity.named "blog.Tag" "tags" with id := some id }]⟩]
  nodup_keys := by decide
  target_mem := by decide

/-- The labels are left to the tags of the same post, and there is one join table for both. -/
theorem blogOfLabels_merges :
    (∀ entity ∈ blogOfLabels.entities, (entity.associations.map (·.name)).Nodup) ∧
      ∃ units, generateAll blogOfLabels {} = .ok units ∧
        (units.flatMap (·.joinTables)).map (fun table => (table.objectName, table.tableName)) =
          [("PostTagsTable", "posts_tags")] ∧
        ∃ post ∈ blogOfLabels.entities, ∃ tags ∈ post.associations, ∃ labels ∈ post.associations,
          (Run.over blogOfLabels {}).Leaves post labels post tags ∧
            labels.target ≠ post.key ∧ ¬OtherSide post labels post tags := by
  refine ⟨by decide, _, rfl, rfl, _, List.mem_cons_self, _, List.mem_cons_self, _,
    List.mem_cons_of_mem _ List.mem_cons_self, ⟨_, rfl, rfl⟩, by decide, ?_⟩
  intro hother
  exact absurd hother.target_eq (by decide)

/-- Posts and tags that are associated from both sides, posts with labels in a join table of their
own, and posts that are associated with posts twice. -/
def blogOfSides : EntityGraphs where
  graphs :=
    let id := IdField.named "id" NativeType.long.valueType
    let toMany (name : String) (target : EntityKey) (joinTable : Option String) : Association :=
      ⟨name, target, .manyToMany, id, none, true, none, joinTable⟩
    [⟨"blog", [
      { Entity.named "blog.Post" "posts" with
        id := some id
        associations := [toMany "tags" "meta.Tag" none, toMany "labels" "meta.Tag" "post_labels",
          toMany "related" "blog.Post" none, toMany "similar" "blog.Post" none] }]⟩,
    ⟨"meta", [
      { Entity.named "meta.Tag" "tags" with
        id := some id, associations := [toMany "posts" "blog.Post" "posts_tags"] }]⟩]
  nodup_keys := by decide
  target_mem := by decide

/-- The posts of a tag are left to the tags of a post, and the similar posts to the related ones. -/
theorem blogOfSides_apart :
    ∃ units, generateAll blogOfSides {} = .ok units ∧
      (units.flatMap (·.joinTables)).map (·.objectName) =
        ["PostTagsTable", "PostLabelsTable", "PostRelatedTable"] ∧
      (∀ entity ∈ blogOfSides.entities, ∀ association ∈ entity.associations,
        ∀ owner ∈ blogOfSides.entities, ∀ ownerAssociation ∈ owner.associations,
          (Run.over blogOfSides {}).Leaves entity association owner ownerAssociation →
            OtherSide entity association owner ownerAssociation) ∧
      ∀ entity ∈ blogOfSides.entities, ∀ first ∈ entity.manyToOthers,
        ∀ second ∈ entity.manyToOthers, first ≠ second →
          ∀ table ∈ units.flatMap (·.joinTables),
            ¬(blogOfSides.joinKey? entity first = some table.key ∧
              blogOfSides.joinKey? entity second = some table.key) := by
  have hrun : ∃ units, generateAll blogOfSides {} = .ok units ∧
      (units.flatMap (·.joinTables)).map (·.objectName) =
        ["PostTagsTable", "PostLabelsTable", "PostRelatedTable"] := ⟨_, rfl, rfl⟩
  obtain ⟨units, hunits, htables⟩ := hrun
  obtain ⟨hsides, hapart⟩ := generateAll_sides_iff (by decide) hunits
  exact ⟨units, hunits, htables, hsides.mpr (by decide +kernel), hapart.mpr (by decide +kernel)⟩

end EntityTables
