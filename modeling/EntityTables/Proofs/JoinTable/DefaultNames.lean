import EntityTables.Generation
import EntityTables.Proofs.Model.Names

/-!
# Names of join tables that are not given one

The default name of a join table is made of the names of its two tables, with an underscore between
them.  The names are put in order first, so the default does not depend on the side of the relation
that it is formed on.  Where the first name ends cannot be told from the default, because the names
may have underscores of their own.  Two pairs of tables have the same default in two cases.

* They are the same pair.
* One pair runs into the other: a part of its second name, up to an underscore, is the end of the
  first name of the other pair.

Tables of different entities have different names in what follows, so a pair of tables is a pair of
entities.

* `TablePair.joined_eq_iff`: when two pairs have the same name;
* `joinTableName_eq_iff_of_plain`: without underscores in the names of tables, the default tells
  which entities are connected;
* `default_joinTableName_eq_iff`: when two associations have the same default.
-/

namespace EntityTables

/-- The names of two tables in ascending order. -/
structure TablePair where
  low : String
  high : String
deriving DecidableEq, Repr

namespace TablePair

def of (first second : String) : TablePair :=
  if first ≤ second then ⟨first, second⟩ else ⟨second, first⟩

/-- Both names, with an underscore between them. -/
def joined (pair : TablePair) : String :=
  pair.low ++ "_" ++ pair.high

/-- The first name of the other pair goes on where that of this pair ends, with an underscore and a
text.  In this pair the text stands at the start of the second name, before an underscore. -/
def RunsInto (pair other : TablePair) : Prop :=
  ∃ shared, other.low = pair.low ++ "_" ++ shared ∧ pair.high = shared ++ "_" ++ other.high

variable {pair other : TablePair}

/-- A pair does not depend on the order in which its names are given. -/
theorem of_eq_of_iff {first second third fourth : String} :
    of first second = of third fourth ↔
      first = third ∧ second = fourth ∨ first = fourth ∧ second = third := by
  unfold of
  split <;> split <;> grind

/-- Both pairs have underscores in their names where one runs into the other. -/
theorem RunsInto.mem_low (hruns : pair.RunsInto other) : '_' ∈ other.low.toList := by
  obtain ⟨shared, hlow, -⟩ := hruns
  simp [hlow]

/-- Two pairs have the same name if they are the same, or one runs into the other. -/
theorem joined_eq_iff :
    pair.joined = other.joined ↔ pair = other ∨ pair.RunsInto other ∨ other.RunsInto pair := by
  cases pair
  cases other
  simp only [joined, append_separator_eq_iff (rfl : "_".toList = ['_']), RunsInto, mk.injEq]

end TablePair

/-- The tables of two entities. -/
def Entity.tablePair (entity other : Entity) : TablePair :=
  .of entity.table other.table

theorem Entity.low_tablePair (entity other : Entity) :
    (entity.tablePair other).low = entity.table ∨ (entity.tablePair other).low = other.table := by
  unfold tablePair TablePair.of
  split
  · exact .inl rfl
  · exact .inr rfl

/-- The default is the name of the pair. -/
theorem joinTableName_eq_joined {source target : Entity} {association : Association}
    (hdefault : association.joinTable = none) :
    joinTableName source association target = (source.tablePair target).joined := by
  simp only [joinTableName, hdefault, Entity.tablePair, TablePair.of]
  split <;> rfl

namespace EntityGraphs

variable {graphs : EntityGraphs} {entity other : Entity}
  {association otherAssociation : Association}

/-- If the tables of all entities have different names, a pair of tables is a pair of entities. -/
theorem tablePair_eq_iff (htables : (graphs.entities.map (·.table)).Nodup)
    {first second third fourth : Entity} (hfirst : first ∈ graphs.entities)
    (hsecond : second ∈ graphs.entities) (hthird : third ∈ graphs.entities)
    (hfourth : fourth ∈ graphs.entities) :
    first.tablePair second = third.tablePair fourth ↔
      first = third ∧ second = fourth ∨ first = fourth ∧ second = third := by
  have htable : ∀ {entity other}, entity ∈ graphs.entities → other ∈ graphs.entities →
      (entity.table = other.table ↔ entity = other) := fun hentity hother =>
    ⟨List.inj_on_of_nodup_map htables hentity hother, congrArg Entity.table⟩
  rw [Entity.tablePair, Entity.tablePair, TablePair.of_eq_of_iff, htable hfirst hthird,
    htable hsecond hfourth, htable hfirst hfourth, htable hsecond hthird]

/-- The same for the default names of join tables. -/
theorem joinTableName_eq_iff_of_default (htables : (graphs.entities.map (·.table)).Nodup)
    {target otherTarget : Entity} (hentity : entity ∈ graphs.entities)
    (htarget : target ∈ graphs.entities) (hdefault : association.joinTable = none)
    (hother : other ∈ graphs.entities) (hotherTarget : otherTarget ∈ graphs.entities)
    (hotherDefault : otherAssociation.joinTable = none) :
    joinTableName entity association target = joinTableName other otherAssociation otherTarget ↔
      (entity = other ∧ target = otherTarget ∨ entity = otherTarget ∧ target = other) ∨
        (entity.tablePair target).RunsInto (other.tablePair otherTarget) ∨
        (other.tablePair otherTarget).RunsInto (entity.tablePair target) := by
  rw [joinTableName_eq_joined hdefault, joinTableName_eq_joined hotherDefault,
    TablePair.joined_eq_iff, tablePair_eq_iff htables hentity htarget hother hotherTarget]

/-- Where no table has an underscore in its name, the default tells which entities are connected. -/
theorem joinTableName_eq_iff_of_plain (htables : (graphs.entities.map (·.table)).Nodup)
    (hplain : ∀ entity ∈ graphs.entities, '_' ∉ entity.table.toList)
    {target otherTarget : Entity} (hentity : entity ∈ graphs.entities)
    (htarget : target ∈ graphs.entities) (hdefault : association.joinTable = none)
    (hother : other ∈ graphs.entities) (hotherTarget : otherTarget ∈ graphs.entities)
    (hotherDefault : otherAssociation.joinTable = none) :
    joinTableName entity association target = joinTableName other otherAssociation otherTarget ↔
      entity = other ∧ target = otherTarget ∨ entity = otherTarget ∧ target = other := by
  have hlow : ∀ {first second pair}, first ∈ graphs.entities → second ∈ graphs.entities →
      ¬TablePair.RunsInto pair (first.tablePair second) := by
    intro first second pair hfirst hsecond hruns
    have hseparator := hruns.mem_low
    rcases Entity.low_tablePair first second with hfirstLow | hsecondLow
    · exact hplain first hfirst (hfirstLow ▸ hseparator)
    · exact hplain second hsecond (hsecondLow ▸ hseparator)
  rw [joinTableName_eq_iff_of_default htables hentity htarget hdefault hother hotherTarget
    hotherDefault]
  simp only [hlow hentity htarget, hlow hother hotherTarget, or_false]

/-- In graphs whose tables have different names, two many-to-many associations without a name for
the join table have the same default if and only if they connect the same two entities, in either
direction, or the tables of one run into those of the other. -/
theorem default_joinTableName_eq_iff (htables : (graphs.entities.map (·.table)).Nodup)
    (hentity : entity ∈ graphs.entities)
    (hassociation : association ∈ entity.associationsOf .manyToMany)
    (hdefault : association.joinTable = none) (hother : other ∈ graphs.entities)
    (hotherAssociation : otherAssociation ∈ other.associationsOf .manyToMany)
    (hotherDefault : otherAssociation.joinTable = none) :
    ∃ target otherTarget, graphs.entity? association.target = some target ∧
      graphs.entity? otherAssociation.target = some otherTarget ∧
      (joinTableName entity association target =
          joinTableName other otherAssociation otherTarget ↔
        (entity = other ∧ target = otherTarget ∨ entity = otherTarget ∧ target = other) ∨
          (entity.tablePair target).RunsInto (other.tablePair otherTarget) ∨
          (other.tablePair otherTarget).RunsInto (entity.tablePair target)) := by
  obtain ⟨target, htarget, hfound⟩ := exists_target hentity (List.mem_filter.mp hassociation).1
  obtain ⟨otherTarget, hotherTarget, hotherFound⟩ :=
    exists_target hother (List.mem_filter.mp hotherAssociation).1
  exact ⟨target, otherTarget, hfound, hotherFound, joinTableName_eq_iff_of_default htables hentity
    htarget hdefault hother hotherTarget hotherDefault⟩

end EntityGraphs

/-- Groups are granted the roles of users, and the users of a group have roles. -/
def accessOfGroups : EntityGraphs where
  graphs :=
    let id := IdField.named "id" NativeType.long.valueType
    let toMany (name : String) (target : EntityKey) : Association :=
      ⟨name, target, .manyToMany, id, none, true, none, none⟩
    [⟨"access", [
      { Entity.named "access.Group" "group" with
        id := some id, associations := [toMany "grants" "access.UserRole"] },
      { Entity.named "access.UserRole" "user_roles" with id := some id },
      { Entity.named "access.GroupUser" "group_user" with
        id := some id, associations := [toMany "roles" "access.Role"] },
      { Entity.named "access.Role" "roles" with id := some id }]⟩]
  nodup_keys := by decide
  target_mem := by decide

/-- The tables have different names and the relations connect different entities, but both join
tables that are emitted have one name. -/
theorem accessOfGroups_default_shared :
    (accessOfGroups.entities.map (·.table)).Nodup ∧
      (∃ entity ∈ accessOfGroups.entities, ∃ association ∈ entity.associationsOf .manyToMany,
        ∃ other ∈ accessOfGroups.entities, ∃ otherAssociation ∈ other.associationsOf .manyToMany,
          ∃ target otherTarget, accessOfGroups.entity? association.target = some target ∧
            accessOfGroups.entity? otherAssociation.target = some otherTarget ∧
            association.joinTable = none ∧ otherAssociation.joinTable = none ∧
            ¬(entity = other ∧ target = otherTarget ∨ entity = otherTarget ∧ target = other) ∧
            joinTableName entity association target =
              joinTableName other otherAssociation otherTarget) ∧
      ∃ units, generateAll accessOfGroups {} = .ok units ∧
        (units.flatMap (·.joinTables)).map
            (fun table => (table.source, table.target, table.tableName)) =
          [("access.Group", "access.UserRole", "group_user_roles"),
            ("access.GroupUser", "access.Role", "group_user_roles")] :=
  ⟨by decide,
    ⟨_, .head _, _, .head _, _, .tail _ (.tail _ (.head _)), _, .head _, _, _, rfl, rfl, rfl, rfl,
      by decide, by decide +kernel⟩,
    _, rfl, by decide +kernel⟩

/-- The tables `group` and `user_roles` run into the tables `group_user` and `roles`. -/
theorem accessOfGroups_runsInto :
    ∃ entity ∈ accessOfGroups.entities, ∃ association ∈ entity.associationsOf .manyToMany,
      ∃ other ∈ accessOfGroups.entities, ∃ otherAssociation ∈ other.associationsOf .manyToMany,
        ∃ target otherTarget, accessOfGroups.entity? association.target = some target ∧
          accessOfGroups.entity? otherAssociation.target = some otherTarget ∧
          entity.tablePair target = ⟨"group", "user_roles"⟩ ∧
          other.tablePair otherTarget = ⟨"group_user", "roles"⟩ ∧
          joinTableName entity association target =
            joinTableName other otherAssociation otherTarget := by
  obtain ⟨entity, hentity, association, hassociation, other, hother, otherAssociation,
      hotherAssociation, hdefault, hotherDefault, htable, hotherTable, hsecond, hotherSecond⟩ :
      ∃ entity ∈ accessOfGroups.entities, ∃ association ∈ entity.associationsOf .manyToMany,
        ∃ other ∈ accessOfGroups.entities, ∃ otherAssociation ∈ other.associationsOf .manyToMany,
          association.joinTable = none ∧ otherAssociation.joinTable = none ∧
          entity.table = "group" ∧ other.table = "group_user" ∧
          (accessOfGroups.entity? association.target).map (·.table) = some "user_roles" ∧
          (accessOfGroups.entity? otherAssociation.target).map (·.table) = some "roles" :=
    ⟨_, .head _, _, .head _, _, .tail _ (.tail _ (.head _)), _, .head _, rfl, rfl, rfl, rfl, rfl,
      rfl⟩
  obtain ⟨target, otherTarget, htarget, hotherTarget, hiff⟩ :=
    EntityGraphs.default_joinTableName_eq_iff (by decide) hentity hassociation hdefault hother
      hotherAssociation hotherDefault
  rw [htarget, Option.map_some, Option.some.injEq] at hsecond
  rw [hotherTarget, Option.map_some, Option.some.injEq] at hotherSecond
  have hpair : entity.tablePair target = ⟨"group", "user_roles"⟩ := by
    rw [Entity.tablePair, htable, hsecond]
    decide
  have hotherPair : other.tablePair otherTarget = ⟨"group_user", "roles"⟩ := by
    rw [Entity.tablePair, hotherTable, hotherSecond]
    decide
  refine ⟨entity, hentity, association, hassociation, other, hother, otherAssociation,
    hotherAssociation, target, otherTarget, htarget, hotherTarget, hpair, hotherPair,
    hiff.mpr (.inr (.inl ?_))⟩
  rw [hpair, hotherPair]
  exact ⟨"user", rfl, rfl⟩

end EntityTables
