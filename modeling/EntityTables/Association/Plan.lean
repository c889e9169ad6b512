import EntityTables.Association.JoinTable
import EntityTables.Wrapper.Basic

/-!
# What associations contribute

A many-to-one association, and a one-to-one association that is not the inverse of another,
contributes a nullable foreign key with the type of the target's id.  A many-to-many
association contributes a join table.  The other associations are stored by their targets and
contribute nothing.
-/

namespace EntityTables

inductive AssociationPlan where
  | foreignKey (column : ColumnSpec)
  | joinTable (table : JoinTable)
  | nothing
deriving DecidableEq, Repr

namespace Association

/-- The name of the foreign key column: the one that is given, or else the name of the
association and of the target's id. -/
def foreignKeyName (association : Association) : String :=
  association.joinColumn.getD (association.name ++ "_" ++ variableName association.targetId.name)

def targetIn (association : Association) (graphs : EntityGraphs) : Except EmissionError Entity :=
  match graphs.entity? association.target with
  | some target => .ok target
  | none => .error (.unknownEntity association.target)

end Association

/-- The column kind and the type of a foreign key to an id.  An id with a converter is referred
to through its carrier. -/
def IdField.foreignKeyKind (settings : Settings) (id : IdField) :
    Except EmissionError (ColumnKind × ValueType) :=
  match id.converter with
  | some converter =>
    converter.carrier.map fun
      | .string => (NativeType.string.columnKind settings id.limits, converter.targetType)
      | .long => (.long, converter.targetType)
  | none =>
    match id.type.native? with
    | none => .error (.idTypeNotSupported id.type)
    | some native =>
      if native.isKeyType then .ok (native.columnKind settings id.limits, id.type)
      else .error (.idTypeNotSupported id.type)

def foreignKeyOf (settings : Settings) (association : Association) (target : Entity) :
    Except EmissionError ColumnSpec :=
  (association.targetId.foreignKeyKind settings).map fun (kind, valueType) =>
    { name := association.name
      valueType
      recipe :=
        { kind
          columnName := association.foreignKeyName
          nullable := true
          references :=
            some ⟨settings.tableObject target.name, variableName association.targetId.name⟩ } }

def planOf (settings : Settings) (graphs : EntityGraphs) (source : Entity)
    (association : Association) : Except EmissionError AssociationPlan :=
  if association.ownsForeignKey then do
    let target ← association.targetIn graphs
    .foreignKey <$> foreignKeyOf settings association target
  else if association.kind = .manyToMany then do
    let target ← association.targetIn graphs
    .joinTable <$> joinTableOf settings source association target
  else
    .ok .nothing

end EntityTables
