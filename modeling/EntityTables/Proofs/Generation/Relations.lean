import EntityTables.Proofs.Generation.Objects
import EntityTables.Proofs.Reference.Targets

/-!
# Relations that are declared on both sides

Two entities can declare one relation with two associations, one of which names the other as its
inverse.  Where a relation is stored is not decided by this name but by what each side says on its
own: a one-to-one association by whether it is stored at all, a many-to-many association by the
name of its join table.

* `EntityGraphs.Linked`, `EntityGraphs.Relates`: two associations that are all there is between
  two entities, the second of which is the inverse of the first;
* `Run.storedInTable_iff`: the tables of a run store the associations that own a foreign key;
* `Run.length_joinTablesBetween`: the join tables between the two entities are those that the two
  associations declare first;
* `EntityGraphs.Linked.declareFirst_iff`: only one of them does so if they name the same table;
* `generateAll_relation_stored_once_iff`: the relation is stored once if and only if its two sides
  agree on where it is stored.
-/

namespace EntityTables

/-! ## Relations in the graphs -/

namespace EntityGraphs

/-- Two entities have one association each with the other, and there is none between them
besides. -/
structure Linked (graphs : EntityGraphs) (entity : Entity) (association : Association)
    (target : Entity) (back : Association) : Prop where
  entity_mem : entity ∈ graphs.entities
  target_mem : target ∈ graphs.entities
  distinct : entity ≠ target
  only : entity.associations.filter (·.target = target.key) = [association]
  only_back : target.associations.filter (·.target = entity.key) = [back]

/-- The first entity relates to the second by an association that stores the relation, and the
second names this association as the one that its own is the inverse of. -/
structure Relates (graphs : EntityGraphs) (entity : Entity) (owner : Association)
    (target : Entity) (inverse : Association) : Prop
    extends graphs.Linked entity owner target inverse where
  kind_eq : inverse.kind = owner.kind
  mapped : owner.mapped = true
  mappedBy_none : owner.mappedBy = none
  mappedBy_eq : inverse.mappedBy = some owner.name

variable {graphs : EntityGraphs} {entity target : Entity} {association back : Association}

namespace Linked

theorem symm (hlinked : graphs.Linked entity association target back) :
    graphs.Linked target back entity association where
  entity_mem := hlinked.target_mem
  target_mem := hlinked.entity_mem
  distinct := hlinked.distinct.symm
  only := hlinked.only_back
  only_back := hlinked.only

theorem key_ne (hlinked : graphs.Linked entity association target back) :
    entity.key ≠ target.key := fun hkey =>
  hlinked.distinct (eq_of_key_eq hlinked.entity_mem hlinked.target_mem hkey)

/-- The only association of the entity with the target is the given one. -/
theorem eq_iff (hlinked : graphs.Linked entity association target back) {other : Association} :
    other ∈ entity.associations ∧ other.target = target.key ↔ other = association := by
  have hmem : other ∈ entity.associations.filter (·.target = target.key) ↔
      other = association := by
    rw [hlinked.only, List.mem_singleton]
  rwa [List.mem_filter, decide_eq_true_iff] at hmem

theorem association_mem (hlinked : graphs.Linked entity association target back) :
    association ∈ entity.associations :=
  (hlinked.eq_iff.mpr rfl).1

theorem target_eq (hlinked : graphs.Linked entity association target back) :
    graphs.entity? association.target = some target :=
  entity?_eq_some_iff.mpr ⟨hlinked.target_mem, (hlinked.eq_iff.mpr rfl).2.symm⟩

theorem joinKey?_eq (hlinked : graphs.Linked entity association target back) :
    graphs.joinKey? entity association =
      some (.of entity.key target.key (joinTableName entity association target)) := by
  rw [joinKey?, hlinked.target_eq, Option.map_some]

/-- A join table between the two entities is declared by one of the two associations. -/
theorem eq_of_joinKey? (hlinked : graphs.Linked entity association target back)
    {first : Entity} {declared : Association} (hfirst : first ∈ graphs.entities)
    (hdeclared : declared ∈ first.associations) {name : String}
    (hkey : graphs.joinKey? first declared = some (.of entity.key target.key name)) :
    (first = entity ∧ declared = association ∧
        joinTableName entity association target = name) ∨
      (first = target ∧ declared = back ∧ joinTableName target back entity = name) := by
  obtain ⟨other, hother, hsome⟩ := exists_target hfirst hdeclared
  obtain ⟨-, hotherKey⟩ := entity?_eq_some_iff.mp hsome
  rw [joinKey?, hsome, Option.map_some, Option.some.injEq, JoinKey.of_eq_of_iff] at hkey
  obtain ⟨⟨hsource, hsink⟩ | ⟨hsource, hsink⟩, hname⟩ := hkey
  · obtain rfl := eq_of_key_eq hfirst hlinked.entity_mem hsource
    obtain rfl := eq_of_key_eq hother hlinked.target_mem hsink
    obtain rfl := hlinked.eq_iff.mp ⟨hdeclared, hotherKey.symm⟩
    exact .inl ⟨rfl, rfl, hname⟩
  · obtain rfl := eq_of_key_eq hfirst hlinked.target_mem hsource
    obtain rfl := eq_of_key_eq hother hlinked.entity_mem hsink
    obtain rfl := hlinked.symm.eq_iff.mp ⟨hdeclared, hotherKey.symm⟩
    exact .inr ⟨rfl, rfl, hname⟩

/-- If the two associations name the same join table, one of them declares it first. -/
theorem declareFirst_of_eq (hlinked : graphs.Linked entity association target back)
    (hkind : association.kind = .manyToMany)
    (hname : joinTableName entity association target = joinTableName target back entity) :
    graphs.declaresFirst entity association ≠ graphs.declaresFirst target back := by
  obtain ⟨key, first, declared, hkey, hfirst⟩ :=
    exists_firstDeclaration hlinked.entity_mem hlinked.association_mem hkind
  have hback : graphs.joinKey? target back = some key := by
    rw [← hkey, hlinked.joinKey?_eq, hlinked.symm.joinKey?_eq, hname]
    exact congrArg some (JoinKey.of_eq_of_iff.mpr ⟨.inr ⟨rfl, rfl⟩, rfl⟩)
  obtain ⟨hmem, hdeclared, -, hsound⟩ := firstDeclaration?_sound hfirst
  rw [← hkey, hlinked.joinKey?_eq] at hsound
  unfold declaresFirst
  rw [hkey, hback, Option.bind_some, hfirst, Option.any_some, Option.any_some]
  rcases hlinked.eq_of_joinKey? hmem hdeclared hsound with ⟨rfl, rfl, -⟩ | ⟨rfl, rfl, -⟩
  · simp [hlinked.key_ne]
  · simp [hlinked.key_ne.symm]

/-- If they name different join tables, each declares its own first. -/
theorem declaresFirst_of_ne (hlinked : graphs.Linked entity association target back)
    (hkind : association.kind = .manyToMany)
    (hname : joinTableName entity association target ≠ joinTableName target back entity) :
    graphs.declaresFirst entity association := by
  obtain ⟨key, first, declared, hkey, hfirst⟩ :=
    exists_firstDeclaration hlinked.entity_mem hlinked.association_mem hkind
  obtain ⟨hmem, hdeclared, -, hsound⟩ := firstDeclaration?_sound hfirst
  rw [← hkey, hlinked.joinKey?_eq] at hsound
  unfold declaresFirst
  rw [hkey, Option.bind_some, hfirst, Option.any_some]
  rcases hlinked.eq_of_joinKey? hmem hdeclared hsound with ⟨rfl, rfl, -⟩ | ⟨-, -, hother⟩
  · simp
  · exact absurd hother.symm hname

/-- Exactly one of the two associations declares its join table first if and only if they name the
same. -/
theorem declareFirst_iff (hlinked : graphs.Linked entity association target back)
    (hkind : association.kind = .manyToMany) (hback : back.kind = .manyToMany) :
    graphs.declaresFirst entity association ≠ graphs.declaresFirst target back ↔
      joinTableName entity association target = joinTableName target back entity := by
  constructor
  · intro hne
    by_contra hname
    have hfirst := hlinked.declaresFirst_of_ne hkind hname
    have hbackFirst := hlinked.symm.declaresFirst_of_ne hback (Ne.symm hname)
    exact hne (hfirst.trans hbackFirst.symm)
  · exact hlinked.declareFirst_of_eq hkind

end Linked
end EntityGraphs

/-- The two sides of a relation agree on where it is stored. -/
structure SidesAgree (entity : Entity) (owner : Association) (target : Entity)
    (inverse : Association) : Prop where
  /-- The inverse of a one-to-one association is not stored itself. -/
  oneToOne : owner.kind = .oneToOne → inverse.mapped = false
  /-- Both sides of a many-to-many association give one name to their join table. -/
  manyToMany : owner.kind = .manyToMany →
    joinTableName entity owner target = joinTableName target inverse entity

/-! ## Relations in the output -/

/-- The table of the entity has the foreign key that is planned for the association. -/
def StoredInTable (graphs : EntityGraphs) (settings : Settings) (units : List OutputUnit)
    (entity : Entity) (association : Association) : Prop :=
  ∃ table ∈ units.flatMap (·.tables), table.entity = entity.key ∧
    ∃ column ∈ table.columns,
      planOf settings graphs entity association = .ok (.foreignKey column)

/-- The two keys are those of the two entities, in either order. -/
def areEnds (first second : Entity) (ends : EntityKey × EntityKey) : Bool :=
  ends = (first.key, second.key) || ends = (second.key, first.key)

/-- The join tables between two entities, whichever of them they are declared for. -/
def joinTablesBetween (units : List OutputUnit) (first second : Entity) : List JoinTable :=
  (units.flatMap (·.joinTables)).filter fun table =>
    areEnds first second (table.source, table.target)

/-- The relation is stored by exactly one of its sides: as a foreign key in one of the two tables,
or in one join table. -/
structure StoredOnce (graphs : EntityGraphs) (settings : Settings) (units : List OutputUnit)
    (entity : Entity) (owner : Association) (target : Entity) (inverse : Association) : Prop where
  foreignKey : owner.kind = .oneToOne →
    Xor (StoredInTable graphs settings units entity owner)
      (StoredInTable graphs settings units target inverse)
  joinTable : owner.kind = .manyToMany → ∃ table, joinTablesBetween units entity target = [table]

namespace Run

variable {run : Run} {units : List OutputUnit} {entity target : Entity}
  {association back : Association}

/-! ## Foreign keys -/

/-- The table of an entity stores the associations of the entity that own a foreign key. -/
theorem storedInTable_iff (hunits : run.units = .ok units) (hentity : entity ∈ run.graphs.entities)
    (hassociation : association ∈ entity.associations) :
    StoredInTable run.graphs run.settings units entity association ↔
      association.ownsForeignKey := by
  obtain ⟨target, -, htarget⟩ := EntityGraphs.exists_target hentity hassociation
  constructor
  · rintro ⟨_, _, _, column, _, hplan⟩
    by_contra howns
    rw [planOf_of_target htarget, if_neg howns] at hplan
    split at hplan
    · obtain ⟨_, _, hother⟩ := map_eq_ok_iff.mp hplan
      contradiction
    · simp at hplan
  · intro howns
    obtain ⟨column, hcontribution⟩ := exists_foreignKey hunits hentity hassociation howns htarget
    obtain ⟨-, hcolumn⟩ := (contribution_eq_foreignKey_iff htarget).mp hcontribution
    have hplan : planOf run.settings run.graphs entity association = .ok (.foreignKey column) := by
      rw [planOf_of_target htarget, if_pos howns, hcolumn]
      rfl
    obtain ⟨unit, hunit, -, table, htable, -, hrepresents⟩ := exists_represented hunits hentity
    obtain ⟨columns, -, hcolumns⟩ := hrepresents.columns
    refine ⟨table, List.mem_flatMap.mpr ⟨unit, hunit, htable⟩, hrepresents.entity_eq, column, ?_,
      hplan⟩
    rw [hcolumns]
    exact List.mem_append_right _ (Entity.mem_foreignKeys_iff.mpr ⟨_, hassociation, hplan⟩)

/-! ## Join tables -/

theorem areEnds_left {first second : Entity} (hdistinct : first.key ≠ second.key)
    (key : EntityKey) : areEnds first second (first.key, key) = decide (key = second.key) := by
  simp [areEnds, hdistinct]

theorem areEnds_symm (first second : Entity) (ends : EntityKey × EntityKey) :
    areEnds first second ends = areEnds second first ends :=
  Bool.or_comm _ _

/-- The join tables that an entity emits are between the entity and the targets of the associations
that they are emitted for. -/
theorem countP_ownedJoinTables (hunits : run.units = .ok units) {emitter : Entity}
    (hemitter : emitter ∈ run.graphs.entities) (first second : Entity) :
    (run.ownedJoinTables emitter).countP
        (fun table => areEnds first second (table.source, table.target)) =
      (run.graphs.joinsOf emitter).countP
        fun (emitter, emitted) => areEnds first second (emitter.key, emitted.target) := by
  have hends : (run.ownedJoinTables emitter).map (fun table => (table.source, table.target)) =
      (run.graphs.joinsOf emitter).map fun (emitter, emitted) => (emitter.key, emitted.target) := by
    apply map_ownedJoinTables hunits hemitter
    intro emitter emitted other table hother hbuilt
    rw [(key_of_joinTableOf hbuilt).1, (references_joinTableOf hbuilt).1,
      (EntityGraphs.entity?_eq_some_iff.mp hother).2]
  have hcount := congrArg (List.countP (areEnds first second)) hends
  rwa [List.countP_map, List.countP_map] at hcount

/-- An end of a relation emits the join table between the two ends that its association declares
first. -/
theorem countP_ownedJoinTables_end (hunits : run.units = .ok units)
    (hlinked : run.graphs.Linked entity association target back)
    (hkind : association.kind = .manyToMany) :
    (run.ownedJoinTables entity).countP
        (fun table => areEnds entity target (table.source, table.target)) =
      (run.graphs.declaresFirst entity association).toNat := by
  calc (run.ownedJoinTables entity).countP
        (fun table => areEnds entity target (table.source, table.target))
      = (run.graphs.joinsOf entity).countP
          fun (emitter, emitted) => areEnds entity target (emitter.key, emitted.target) :=
        countP_ownedJoinTables hunits hlinked.entity_mem entity target
    _ = ((entity.associationsOf .manyToMany).filter (run.graphs.declaresFirst entity)).countP
          (·.target = target.key) := by
        rw [EntityGraphs.joinsOf, List.countP_map]
        simp only [Function.comp_def, areEnds_left hlinked.key_ne]
    _ = (entity.associations.filter (·.target = target.key)).countP
          fun emitted => run.graphs.declaresFirst entity emitted && emitted.kind = .manyToMany := by
        simp only [Entity.associationsOf, List.countP_filter]
        apply List.countP_congr
        intro emitted _
        simp only [Bool.and_eq_true]
        tauto
    _ = (run.graphs.declaresFirst entity association).toNat := by
        rw [hlinked.only]
        cases hfirst : run.graphs.declaresFirst entity association <;> simp [hkind, hfirst]

/-- The entities that are neither end of a relation emit no join table between the two. -/
theorem countP_ownedJoinTables_other (hunits : run.units = .ok units) {other : Entity}
    (hother : other ∈ run.graphs.entities) (hentity : other.key ≠ entity.key)
    (htarget : other.key ≠ target.key) :
    (run.ownedJoinTables other).countP
        (fun table => areEnds entity target (table.source, table.target)) = 0 := by
  rw [countP_ownedJoinTables hunits hother entity target]
  apply List.countP_eq_zero.mpr
  intro join hjoin
  obtain ⟨emitted, -, rfl⟩ := List.mem_map.mp hjoin
  simp [areEnds, hentity, htarget]

/-- The join tables between the two ends of a relation are those that the two associations declare
first. -/
theorem length_joinTablesBetween (hunits : run.units = .ok units)
    (hlinked : run.graphs.Linked entity association target back)
    (hkind : association.kind = .manyToMany) (hback : back.kind = .manyToMany) :
    (joinTablesBetween units entity target).length =
      (run.graphs.declaresFirst entity association).toNat +
        (run.graphs.declaresFirst target back).toNat := by
  let between (table : JoinTable) : Bool := areEnds entity target (table.source, table.target)
  -- the two ends are taken out of the entities, and none of the others emits such a table
  obtain ⟨others, hentities⟩ : ∃ others,
      run.graphs.entities.Perm (entity :: target :: others) := by
    have hmem := (List.mem_erase_of_ne hlinked.distinct.symm).mpr hlinked.target_mem
    exact ⟨_, (List.perm_cons_erase hlinked.entity_mem).trans
      ((List.perm_cons_erase hmem).cons _)⟩
  have hkeys : ((entity :: target :: others).map Entity.key).Nodup :=
    (hentities.map Entity.key).nodup_iff.mp run.graphs.nodup_keys
  have hothers : (others.flatMap run.ownedJoinTables).countP between = 0 := by
    apply List.countP_eq_zero.mpr
    intro table htable
    obtain ⟨other, hother, htable⟩ := List.mem_flatMap.mp htable
    have hmem : other ∈ run.graphs.entities :=
      hentities.mem_iff.mpr (List.mem_cons_of_mem _ (List.mem_cons_of_mem _ hother))
    obtain ⟨hentity, htarget⟩ : other.key ≠ entity.key ∧ other.key ≠ target.key := by
      have hkey := List.mem_map_of_mem (f := Entity.key) hother
      rw [List.map_cons, List.map_cons, List.nodup_cons, List.nodup_cons] at hkeys
      exact ⟨fun heq => hkeys.1 (heq ▸ List.mem_cons_of_mem _ hkey),
        fun heq => hkeys.2.1 (heq ▸ hkey)⟩
    have hnone := countP_ownedJoinTables_other hunits hmem hentity htarget
    exact List.countP_eq_zero.mp hnone table htable
  have hentity := countP_ownedJoinTables_end hunits hlinked hkind
  have htarget := countP_ownedJoinTables_end hunits hlinked.symm hback
  simp only [areEnds_symm target entity] at htarget
  calc (joinTablesBetween units entity target).length
      = (units.flatMap (·.joinTables)).countP between := List.countP_eq_length_filter.symm
    _ = ((entity :: target :: others).flatMap run.ownedJoinTables).countP between :=
        ((flatMap_joinTables_perm hunits).trans (hentities.flatMap_right _)).countP_eq _
    _ = (run.ownedJoinTables entity).countP between +
          ((run.ownedJoinTables target).countP between +
            (others.flatMap run.ownedJoinTables).countP between) := by
        rw [List.flatMap_cons, List.flatMap_cons, List.countP_append, List.countP_append]
    _ = (run.graphs.declaresFirst entity association).toNat +
          (run.graphs.declaresFirst target back).toNat := by
        rw [hentity, htarget, hothers, Nat.add_zero]

end Run

/-! ## A run -/

/-- The relation is stored once if and only if its two sides agree on where it is stored. -/
theorem generateAll_relation_stored_once_iff {graphs : EntityGraphs} {settings : Settings}
    {units : List OutputUnit} (hunits : generateAll graphs settings = .ok units)
    {entity target : Entity} {owner inverse : Association}
    (hrelates : graphs.Relates entity owner target inverse) :
    StoredOnce graphs settings units entity owner target inverse ↔
      SidesAgree entity owner target inverse := by
  let run := Run.over graphs settings
  have hrun : run.units = .ok units := hunits
  have hlinked := hrelates.toLinked
  have hforeign : owner.kind = .oneToOne →
      (Xor (StoredInTable graphs settings units entity owner)
        (StoredInTable graphs settings units target inverse) ↔ inverse.mapped = false) := by
    intro hkind
    have hinverse := hrelates.kind_eq.trans hkind
    have howner : StoredInTable graphs settings units entity owner ↔ owner.ownsForeignKey :=
      Run.storedInTable_iff hrun hlinked.entity_mem hlinked.association_mem
    have hback : StoredInTable graphs settings units target inverse ↔ inverse.ownsForeignKey :=
      Run.storedInTable_iff hrun hlinked.target_mem hlinked.symm.association_mem
    rw [howner, hback, Association.ownsForeignKey, Association.ownsForeignKey, hkind, hinverse]
    simp [Xor, hrelates.mapped]
  have hjoin : owner.kind = .manyToMany →
      ((∃ table, joinTablesBetween units entity target = [table]) ↔
        joinTableName entity owner target = joinTableName target inverse entity) := by
    intro hkind
    have hinverse := hrelates.kind_eq.trans hkind
    have hlength := Run.length_joinTablesBetween hrun hlinked hkind hinverse
    rw [← List.length_eq_one_iff, hlength, ← hlinked.declareFirst_iff hkind hinverse]
    show (graphs.declaresFirst entity owner).toNat +
      (graphs.declaresFirst target inverse).toNat = 1 ↔ _
    cases graphs.declaresFirst entity owner <;>
      cases graphs.declaresFirst target inverse <;> decide
  constructor
  · intro hstored
    exact ⟨fun hkind => (hforeign hkind).mp (hstored.foreignKey hkind),
      fun hkind => (hjoin hkind).mp (hstored.joinTable hkind)⟩
  · intro hagree
    exact ⟨fun hkind => (hforeign hkind).mpr (hagree.oneToOne hkind),
      fun hkind => (hjoin hkind).mpr (hagree.manyToMany hkind)⟩

/-! ## A school

Students have a locker and attend courses.  Lockers and courses name the associations of the student
as those that theirs are the inverses of, and may agree with the student on where the relations are
stored.
-/

namespace School

def id : IdField :=
  IdField.named "id" NativeType.long.valueType

def toLocker : Association :=
  ⟨"locker", "school.Locker", .oneToOne, id, none, true, none, none⟩

def toStudent (agreed : Bool) : Association :=
  ⟨"student", "school.Student", .oneToOne, id, none, !agreed, some "locker", none⟩

def toCourses : Association :=
  ⟨"courses", "school.Course", .manyToMany, id, none, true, none, some "enrollments"⟩

def toStudents (agreed : Bool) : Association :=
  ⟨"students", "school.Student", .manyToMany, id, none, !agreed, some "courses",
    if agreed then some "enrollments" else none⟩

def student : Entity :=
  { Entity.named "school.Student" "students" with
    id := some id, associations := [toLocker, toCourses] }

def locker (agreed : Bool) : Entity :=
  { Entity.named "school.Locker" "lockers" with
    id := some id, associations := [toStudent agreed] }

def course (agreed : Bool) : Entity :=
  { Entity.named "school.Course" "courses" with
    id := some id, associations := [toStudents agreed] }

def graphs (agreed : Bool) : EntityGraphs where
  graphs := [⟨"school", [student, locker agreed, course agreed]⟩]
  nodup_keys := by cases agreed <;> decide
  target_mem := by cases agreed <;> decide

theorem relates_locker (agreed : Bool) :
    (graphs agreed).Relates student toLocker (locker agreed) (toStudent agreed) where
  entity_mem := List.mem_cons_self
  target_mem := List.mem_cons_of_mem _ List.mem_cons_self
  distinct := by cases agreed <;> decide
  only := by cases agreed <;> decide
  only_back := by cases agreed <;> decide
  kind_eq := rfl
  mapped := rfl
  mappedBy_none := rfl
  mappedBy_eq := rfl

theorem relates_course (agreed : Bool) :
    (graphs agreed).Relates student toCourses (course agreed) (toStudents agreed) where
  entity_mem := List.mem_cons_self
  target_mem := List.mem_cons_of_mem _ (List.mem_cons_of_mem _ List.mem_cons_self)
  distinct := by cases agreed <;> decide
  only := by cases agreed <;> decide
  only_back := by cases agreed <;> decide
  kind_eq := rfl
  mapped := rfl
  mappedBy_none := rfl
  mappedBy_eq := rfl

theorem relations_stored_once :
    ∃ units, generateAll (graphs true) {} = .ok units ∧
      StoredOnce (graphs true) {} units student toLocker (locker true) (toStudent true) ∧
      StoredOnce (graphs true) {} units student toCourses (course true) (toStudents true) := by
  have hrun : ∃ units, generateAll (graphs true) {} = .ok units := ⟨_, rfl⟩
  obtain ⟨units, hunits⟩ := hrun
  have hlocker : SidesAgree student toLocker (locker true) (toStudent true) :=
    ⟨fun _ => rfl, fun hkind => by simp [toLocker] at hkind⟩
  have hcourse : SidesAgree student toCourses (course true) (toStudents true) :=
    ⟨fun hkind => by simp [toCourses] at hkind, fun _ => rfl⟩
  exact ⟨units, hunits,
    (generateAll_relation_stored_once_iff hunits (relates_locker true)).mpr hlocker,
    (generateAll_relation_stored_once_iff hunits (relates_course true)).mpr hcourse⟩

/-- Without an agreement both tables get a foreign key, and there are two join tables. -/
theorem relations_stored_twice :
    (graphs false).Relates student toLocker (locker false) (toStudent false) ∧
      (graphs false).Relates student toCourses (course false) (toStudents false) ∧
      ∃ units, generateAll (graphs false) {} = .ok units ∧
        ¬StoredOnce (graphs false) {} units student toLocker (locker false) (toStudent false) ∧
        ¬StoredOnce (graphs false) {} units student toCourses (course false)
          (toStudents false) := by
  let run := Run.over (graphs false) {}
  have hrun : ∃ units, run.units = .ok units := ⟨_, rfl⟩
  obtain ⟨units, hunits⟩ := hrun
  refine ⟨relates_locker false, relates_course false, units, hunits, ?_, ?_⟩
  · intro hstored
    have hlinked := (relates_locker false).toLinked
    have howner : StoredInTable run.graphs run.settings units student toLocker :=
      (Run.storedInTable_iff hunits hlinked.entity_mem hlinked.association_mem).mpr rfl
    have hinverse : StoredInTable run.graphs run.settings units (locker false) (toStudent false) :=
      (Run.storedInTable_iff hunits hlinked.target_mem hlinked.symm.association_mem).mpr rfl
    rcases hstored.foreignKey (by decide) with ⟨-, hnot⟩ | ⟨-, hnot⟩
    · exact hnot hinverse
    · exact hnot howner
  · intro hstored
    have hlength := Run.length_joinTablesBetween hunits (relates_course false).toLinked
      (by decide) (by decide)
    have hfirst : (run.graphs.declaresFirst student toCourses).toNat +
        (run.graphs.declaresFirst (course false) (toStudents false)).toNat = 2 := by
      decide +kernel
    obtain ⟨table, hone⟩ := hstored.joinTable (by decide)
    rw [hone, hfirst, List.length_singleton] at hlength
    exact absurd hlength (by decide)

end School
end EntityTables
