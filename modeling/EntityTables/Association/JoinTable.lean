import EntityTables.Model.Graphs
import EntityTables.Naming
import EntityTables.Output.Declaration
import EntityTables.Report
import EntityTables.Settings

/-!
# Join tables

A many-to-many association is stored in a join table with a foreign key to either side.  Both
sides may declare the same join table; it is the same when the two entities and the name of
the table agree, in whatever order the entities are named.  The first declaration in the order
of graphs, entities and associations owns the join table and is the only one to emit it.
-/

namespace EntityTables

/-- What identifies a join table: its two entities, ordered, and its name. -/
structure JoinKey where
  low : EntityKey
  high : EntityKey
  tableName : String
deriving DecidableEq, Repr

def JoinKey.of (first second : EntityKey) (tableName : String) : JoinKey :=
  if first ≤ second then ⟨first, second, tableName⟩ else ⟨second, first, tableName⟩

/-- Join tables are ordered by their entities and then by name. -/
instance : Ord JoinKey where
  compare := compareLex (compareOn (·.low)) (compareLex (compareOn (·.high)) (compareOn (·.tableName)))

def JoinTable.key (table : JoinTable) : JoinKey :=
  .of table.source table.target table.tableName

/-- The name of the join table of an association: the one it gives, or else the names of both
tables, in ascending order so that either side arrives at the same name. -/
def joinTableName (source : Entity) (association : Association) (target : Entity) : String :=
  match association.joinTable with
  | some name => name
  | none =>
    if source.table ≤ target.table then source.table ++ "_" ++ target.table
    else target.table ++ "_" ++ source.table

/-- A column of a join table, a foreign key to the id of an entity; `stem` is what its names are
formed from. -/
def joinColumn (settings : Settings) (stem : String) (entity : Entity) (idName : String) :
    ColumnSpec where
  name := stem ++ "Id"
  valueType := NativeType.long.valueType
  recipe :=
    { kind := .long
      columnName := stem ++ "_id"
      references := some ⟨settings.tableObject entity.name, variableName idName⟩ }

/-- What the names of the target's column are formed from: the name of the target, but for an
entity that is associated with itself the name of the association. -/
def targetStem (source : Entity) (association : Association) (target : Entity) : String :=
  if source.key = target.key then variableName association.name else variableName target.name

def joinTableOf (settings : Settings) (source : Entity) (association : Association)
    (target : Entity) : Except EmissionError JoinTable :=
  match source.id with
  | none => .error (.missingId source.name)
  | some id =>
    .ok {
      objectName := settings.tableObject (source.name ++ objectName association.name)
      tableName := joinTableName source association target
      source := source.key
      target := target.key
      sourceColumn := joinColumn settings (variableName source.name) source id.name
      targetColumn :=
        joinColumn settings (targetStem source association target) target
          association.targetId.name }

/-- The association that declares a join table. -/
structure JoinOwner where
  entity : EntityKey
  association : String
deriving DecidableEq, Repr

namespace EntityGraphs

/-- The join tables that an entity declares, in order. -/
def joinDeclarationsOf (graphs : EntityGraphs) (entity : Entity) : List (JoinKey × JoinOwner) :=
  (entity.associationsOf .manyToMany).filterMap fun association =>
    (graphs.entity? association.target).map fun target =>
      (.of entity.key target.key (joinTableName entity association target),
        ⟨entity.key, association.name⟩)

def joinDeclarations (graphs : EntityGraphs) : List (JoinKey × JoinOwner) :=
  graphs.entities.flatMap graphs.joinDeclarationsOf

end EntityGraphs

/-- Whether an association emits its join table: it is the first to declare it, or nobody does
so among the declarations. -/
def ownsJoinTable (declarations : List (JoinKey × JoinOwner)) (source : Entity)
    (association : Association) (table : JoinTable) : Bool :=
  match declarations.lookup table.key with
  | none => true
  | some owner => owner = ⟨source.key, association.name⟩

end EntityTables
