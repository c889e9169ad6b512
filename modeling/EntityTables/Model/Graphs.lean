import EntityTables.Model.Entity

/-!
# Graphs of entities

`EntityGraphs` are the graphs of one run.  All entities have different keys, and every
association has its target among them; `EntityGraphs.ofList` accepts exactly the lists of
graphs with these two properties, and else names the first entity or association that violates
one of them.
-/

namespace EntityTables

/-- Entities that were declared together. -/
structure EntityGraph where
  name : String
  entities : List Entity
deriving DecidableEq, Repr

/-- Why graphs cannot be used together. -/
inductive ModelError where
  | duplicateEntity (key : EntityKey)
  | unresolvedTarget (entity : EntityKey) (association : String) (target : EntityKey)
deriving DecidableEq, Repr

def ModelError.message : ModelError → String
  | .duplicateEntity key => s!"entity `{key}` is declared more than once"
  | .unresolvedTarget entity association target =>
    s!"association `{association}` on `{entity}` targets unknown entity `{target}`"

/-- The entities of graphs, graph by graph. -/
def entitiesOf (graphs : List EntityGraph) : List Entity :=
  graphs.flatMap (·.entities)

/-- The first element that occurs before its own place. -/
def firstRepeated? (earlier : List EntityKey) : List EntityKey → Option EntityKey
  | [] => none
  | key :: keys => if key ∈ earlier then some key else firstRepeated? (key :: earlier) keys

theorem firstRepeated?_eq_none_iff (earlier keys : List EntityKey) :
    firstRepeated? earlier keys = none ↔ keys.Nodup ∧ ∀ key ∈ keys, key ∉ earlier := by
  induction keys generalizing earlier with
  | nil => simp [firstRepeated?]
  | cons key keys ih =>
    by_cases hmem : key ∈ earlier
    · simp [firstRepeated?, hmem]
    · simp only [firstRepeated?, hmem, if_false, ih, List.nodup_cons, List.mem_cons]
      grind

/-- The associations that have no target among the keys, each with its entity. -/
def unresolved (keys : List EntityKey) (entities : List Entity) : List (Entity × Association) :=
  entities.flatMap fun entity =>
    (entity.associations.filter fun association => association.target ∉ keys).map (entity, ·)

theorem unresolved_eq_nil_iff (keys : List EntityKey) (entities : List Entity) :
    unresolved keys entities = [] ↔
      ∀ entity ∈ entities, ∀ association ∈ entity.associations, association.target ∈ keys := by
  simp [unresolved, List.flatMap_eq_nil_iff, List.filter_eq_nil_iff]

/-- The graphs of a run. -/
structure EntityGraphs where
  graphs : List EntityGraph
  nodup_keys : ((entitiesOf graphs).map Entity.key).Nodup
  target_mem : ∀ entity ∈ entitiesOf graphs, ∀ association ∈ entity.associations,
    association.target ∈ (entitiesOf graphs).map Entity.key

namespace EntityGraphs

def empty : EntityGraphs where
  graphs := []
  nodup_keys := List.nodup_nil
  target_mem := by simp [entitiesOf]

/-- Graphs that fit together, or the first repeated entity, or else the first association
without a target. -/
def ofList (graphs : List EntityGraph) : Except ModelError EntityGraphs :=
  let keys := (entitiesOf graphs).map Entity.key
  match hrepeated : firstRepeated? [] keys with
  | some key => .error (.duplicateEntity key)
  | none =>
    match hunresolved : unresolved keys (entitiesOf graphs) with
    | (entity, association) :: _ =>
      .error (.unresolvedTarget entity.key association.name association.target)
    | [] =>
      .ok {
        graphs := graphs
        nodup_keys := ((firstRepeated?_eq_none_iff _ _).mp hrepeated).1
        target_mem := (unresolved_eq_nil_iff _ _).mp hunresolved }

def entities (graphs : EntityGraphs) : List Entity :=
  entitiesOf graphs.graphs

def entity? (graphs : EntityGraphs) (key : EntityKey) : Option Entity :=
  graphs.entities.find? (·.key = key)

/-- All entities with the graphs they belong to. -/
def entries (graphs : EntityGraphs) : List (EntityGraph × Entity) :=
  graphs.graphs.flatMap fun graph => graph.entities.map (graph, ·)

/-- The entities of a package with the graphs they belong to. -/
def entriesIn (graphs : EntityGraphs) (package : String) : List (EntityGraph × Entity) :=
  graphs.entries.filter (·.2.package = package)

/-- The packages of the entities, in the order in which they are first seen. -/
def packages (graphs : EntityGraphs) : List String :=
  (graphs.entities.map Entity.package).eraseDups

end EntityGraphs

/-- Where an entity stands: the position of its graph, and its own position in the graph. -/
structure Slot where
  graph : Nat
  entity : Nat
deriving DecidableEq, Repr

/-- The entity that stands in a slot. -/
def Slot.entity? (graphs : List EntityGraph) (slot : Slot) : Option Entity :=
  graphs[slot.graph]?.bind (·.entities[slot.entity]?)

/-- All entities with the slots in which they stand. -/
def slotsOf (graphs : List EntityGraph) : List (Slot × Entity) :=
  graphs.zipIdx.flatMap fun (graph, position) =>
    graph.entities.zipIdx.map fun (entity, place) => (⟨position, place⟩, entity)

namespace EntityGraphs

/-- The slots of all entities under the keys of the entities. -/
def index (graphs : EntityGraphs) : List (EntityKey × Slot) :=
  (slotsOf graphs.graphs).map fun (slot, entity) => (entity.key, slot)

/-- How many entities are in the index. -/
def size (graphs : EntityGraphs) : Nat :=
  graphs.index.length

def isEmpty (graphs : EntityGraphs) : Bool :=
  graphs.index.isEmpty

end EntityGraphs
end EntityTables
