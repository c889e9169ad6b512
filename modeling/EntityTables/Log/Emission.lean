import EntityTables.Emission
import EntityTables.Log.Event

/-!
# Events of an emission

What is logged while entities are emitted into a unit.
-/

namespace EntityTables.Log

/-- The join tables of a run have been counted. -/
def joinTablesCounted (run : Run) : Event :=
  let count := (run.joinDeclarations.map (·.1)).eraseDups.length
  ⟨.debug, s!"[RESOLVE] {count} join tables in this run"⟩

/-- A wrapper has been given its name. -/
def ofChoice (wrapperName : String) : WrapperChoice → List Event
  | .reuse name => [⟨.debug, s!"[EMIT] Reusing converter wrapper '{name}'"⟩]
  | .fresh name =>
    if name = wrapperName then []
    else
      [⟨.debug, s!"[EMIT] Converter wrapper '{wrapperName}' renamed to '{name}' to avoid a conflict"⟩]

/-- A member has been given a column of a kind. -/
def ofColumn (member : Member) (kind : ColumnKind) : List Event :=
  if member.ignoresGenerated kind then
    [⟨.warn, s!"[RESOLVE] Ignoring generated value on non-integral id column '{member.columnName}' ({member.type.qualifiedName})"⟩]
  else
    []

def ofMember (outcome : MemberOutcome) : List Event :=
  (outcome.choice.map (ofChoice outcome.member.name)).getD [] ++
    match outcome.column with
    | .ok column => ofColumn outcome.member column.recipe.kind
    | .error _ => []

def ofAssociation (entityName : String) (outcome : AssociationOutcome) : List Event :=
  let association := outcome.association
  match outcome.contribution with
  | .ok (.ownedElsewhere table) =>
    [⟨.debug, s!"[EMIT] Join table '{table.tableName}' is declared by the other side, skipping {entityName}.{association.name}"⟩]
  | .ok .nothing =>
    [⟨.trace, s!"[EMIT] {entityName}.{association.name} ({association.kind.name}) owns no column"⟩]
  | _ => []

def ofDraft (settings : Settings) (draft : Draft) : Event :=
  let name := draft.entity.name
  if draft.errors.isEmpty then
    let table := draft.table settings
    ⟨.debug, s!"[EMIT] {name} -> {table.objectName} ({table.allColumns.length} columns, {draft.joinTables.length} join tables, {draft.wrappers.length} wrappers)"⟩
  else
    ⟨.warn, s!"[EMIT] {name} failed with {draft.errors.length} error(s), nothing emitted for it"⟩

def ofEntity (run : Run) (unit : OutputUnit) (graph : EntityGraph) (entity : Entity) : List Event :=
  let draft := run.draft unit entity
  ⟨.debug, s!"[EMIT] {entity.name} (graph '{graph.name}', table '{entity.table}')"⟩ ::
    (draft.key.toList ++ draft.properties).flatMap ofMember ++
    draft.associations.flatMap (ofAssociation entity.name) ++ [ofDraft run.settings draft]

def ofEntities (run : Run) (unit : OutputUnit) : List (EntityGraph × Entity) → List Event
  | [] => []
  | (graph, entity) :: entries =>
    ofEntity run unit graph entity ++ ofEntities run (run.afterEntity unit entity) entries

/-- What is logged while a graph is emitted into a unit. -/
def ofGraph (run : Run) (unit : OutputUnit) (graph : EntityGraph) : List Event :=
  ofEntities run unit ((graph.entities.filter (·.package = unit.package)).map (graph, ·))

/-- What is logged while a package is emitted into its unit. -/
def ofPackage (run : Run) (unit : OutputUnit) : List Event :=
  ofEntities run unit (run.graphs.entriesIn unit.package)

end EntityTables.Log
