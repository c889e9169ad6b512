import EntityTables.Association.Plan
import EntityTables.Output.Unit

/-!
# Emitting entities

An entity is emitted into the output unit of a package: its table, the join tables it owns, the
wrappers of its converted members and the external tables it refers to.  All of that is drafted
first.  If no member fails the draft becomes a stage that is committed to the unit; otherwise
the unit stays as it is and the errors of all members are returned.
-/

namespace EntityTables

/-- A run over graphs: what every emission of the run looks at. -/
structure Run where
  graphs : EntityGraphs
  settings : Settings
  /-- The declarations of join tables, which decide who owns them. -/
  joinDeclarations : List (JoinKey × JoinOwner)
  joinDeclarations_eq : joinDeclarations = graphs.joinDeclarations

def Run.over (graphs : EntityGraphs) (settings : Settings) : Run where
  graphs := graphs
  settings := settings
  joinDeclarations := graphs.joinDeclarations
  joinDeclarations_eq := rfl

/-- What became of a member: the name of its wrapper, if it has one, and its column. -/
structure MemberOutcome where
  member : Member
  choice : Option WrapperChoice
  column : Except EmissionError ColumnSpec

/-- What an association contributes to the emission of its entity. -/
inductive Contribution where
  | foreignKey (column : ColumnSpec)
  | joinTable (table : JoinTable)
  /-- Another association owns the join table. -/
  | ownedElsewhere (table : JoinTable)
  | nothing
deriving DecidableEq, Repr

structure AssociationOutcome where
  association : Association
  contribution : Except EmissionError Contribution

/-- Everything that emitting an entity comes to, before it is decided whether it fails. -/
structure Draft where
  entity : Entity
  key : Option MemberOutcome
  properties : List MemberOutcome
  associations : List AssociationOutcome
  wrappers : List Wrapper
  /-- The external tables that the contributions refer to, as an ordered set. -/
  externals : List ExternalTable

def errorOf? {ε α : Type} : Except ε α → Option ε
  | .ok _ => none
  | .error error => some error

namespace Contribution

def column? : Contribution → Option ColumnSpec
  | .foreignKey column => some column
  | _ => none

def joinTable? : Contribution → Option JoinTable
  | .joinTable table => some table
  | _ => none

/-- Whether the table of the association's target is referred to. -/
def refersToTarget : Contribution → Bool
  | .foreignKey _ | .joinTable _ => true
  | .ownedElsewhere _ | .nothing => false

end Contribution

namespace Draft

/-- The errors of the members in order: the id, the properties and the associations. -/
def errors (draft : Draft) : List EmissionError :=
  (draft.key.toList ++ draft.properties).filterMap (errorOf? ·.column) ++
    draft.associations.filterMap (errorOf? ·.contribution)

/-- The columns behind the key: those of the properties, then the foreign keys. -/
def columns (draft : Draft) : List ColumnSpec :=
  draft.properties.filterMap (·.column.toOption) ++
    draft.associations.filterMap fun outcome => outcome.contribution.toOption.bind (·.column?)

def table (settings : Settings) (draft : Draft) : Table where
  objectName := settings.tableObject draft.entity.name
  tableName := draft.entity.table
  entity := draft.entity.key
  primaryKey := draft.key.bind (·.column.toOption)
  columns := draft.columns

def joinTables (draft : Draft) : List JoinTable :=
  draft.associations.filterMap fun outcome => outcome.contribution.toOption.bind (·.joinTable?)

def stage (settings : Settings) (draft : Draft) : Stage where
  declarations := .table (draft.table settings) :: draft.joinTables.map .joinTable
  wrappers := draft.wrappers
  externals := draft.externals

end Draft

namespace Run

/-- A member is given its column.  A converted member registers a wrapper in the stage. -/
def placeMember (run : Run) (unit : OutputUnit) (entityName : String) (stage : Stage)
    (member : Member) : Stage × MemberOutcome :=
  match member.wrapper? with
  | none => (stage, ⟨member, none, member.column <$> member.recipe run.settings none⟩)
  | some (.error error) => (stage, ⟨member, none, .error error⟩)
  | some (.ok wrapper) =>
    let choice := unit.chooseWrapper stage entityName wrapper
    (stage.addWrapper wrapper choice,
      ⟨member, some choice, member.column <$> member.recipe run.settings (some choice.name)⟩)

def placeMembers (run : Run) (unit : OutputUnit) (entityName : String) (stage : Stage) :
    List Member → Stage × List MemberOutcome
  | [] => (stage, [])
  | member :: members =>
    let (stage, outcome) := run.placeMember unit entityName stage member
    let (stage, outcomes) := placeMembers run unit entityName stage members
    (stage, outcome :: outcomes)

def contribution (run : Run) (entity : Entity) (association : Association) :
    Except EmissionError Contribution :=
  (planOf run.settings run.graphs entity association).map fun
    | .foreignKey column => .foreignKey column
    | .joinTable table =>
      if ownsJoinTable run.joinDeclarations entity association table then .joinTable table
      else .ownedElsewhere table
    | .nothing => .nothing

/-- The table of an association's target, if it belongs to another package. -/
def external? (run : Run) (package : String) (association : Association) : Option ExternalTable :=
  (run.graphs.entity? association.target).bind fun target =>
    if target.package = package then none
    else some ⟨target.package, run.settings.tableObject target.name⟩

/-- The external table that the outcome of an association refers to. -/
def externalOf? (run : Run) (package : String) (outcome : AssociationOutcome) :
    Option ExternalTable :=
  match outcome.contribution with
  | .ok contribution =>
    if contribution.refersToTarget then run.external? package outcome.association else none
  | .error _ => none

def draft (run : Run) (unit : OutputUnit) (entity : Entity) : Draft :=
  let (stage, key) :=
    run.placeMembers unit entity.name {} (entity.id.map IdField.member).toList
  let (stage, properties) :=
    run.placeMembers unit entity.name stage (entity.properties.map Property.member)
  let associations := entity.associations.map fun association =>
    ⟨association, run.contribution entity association⟩
  { entity
    key := key.head?
    properties
    associations
    wrappers := stage.wrappers
    externals := Ordered.ofList (associations.filterMap (run.externalOf? unit.package)) }

/-- What an entity contributes to a unit, unless one of its members fails. -/
def stageOf (run : Run) (unit : OutputUnit) (entity : Entity) : Except EntityFailure Stage :=
  let draft := run.draft unit entity
  if draft.errors.isEmpty then .ok (draft.stage run.settings)
  else .error ⟨entity.name, draft.errors⟩

def emitEntity (run : Run) (unit : OutputUnit) (entity : Entity) :
    Except EntityFailure OutputUnit :=
  unit.commit <$> run.stageOf unit entity

/-- The unit behind an entity that may fail: a failing entity leaves it as it is. -/
def afterEntity (run : Run) (unit : OutputUnit) (entity : Entity) : OutputUnit :=
  match run.emitEntity unit entity with
  | .ok unit => unit
  | .error _ => unit

/-- Entities are emitted one after the other; those that fail are reported. -/
def emitAll (run : Run) (unit : OutputUnit) : List Entity → OutputUnit × List EntityFailure
  | [] => (unit, [])
  | entity :: entities =>
    match run.emitEntity unit entity with
    | .ok unit => emitAll run unit entities
    | .error failure =>
      let (unit, failures) := emitAll run unit entities
      (unit, failure :: failures)

/-- The entities of a graph that belong to the unit's package are emitted. -/
def emitGraph (run : Run) (unit : OutputUnit) (graph : EntityGraph) :
    OutputUnit × List EntityFailure :=
  run.emitAll unit (graph.entities.filter (·.package = unit.package))

/-- The entities of all graphs that belong to the unit's package are emitted. -/
def emitPackage (run : Run) (unit : OutputUnit) : OutputUnit × List EntityFailure :=
  run.emitAll unit ((run.graphs.entriesIn unit.package).map (·.2))

end Run
end EntityTables
