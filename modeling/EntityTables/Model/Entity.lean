import EntityTables.Model.ValueType

/-!
# Entities

An entity has a table, an id, properties and associations to other entities.  It is identified
by its qualified name, whose part before the last dot is its package.
-/

namespace EntityTables

/-- An entity is identified by its qualified name. -/
abbrev EntityKey := String

/-- The limits that a column is annotated with. -/
structure ColumnLimits where
  length : Option UInt32 := none
  precision : Option UInt32 := none
  scale : Option UInt32 := none
deriving DecidableEq, Repr

namespace ColumnLimits

/-- A limit on the length of a text. -/
def ofLength (length : UInt32) : ColumnLimits where
  length := some length

def ofDecimal (precision scale : UInt32) : ColumnLimits where
  precision := some precision
  scale := some scale

end ColumnLimits

/-- A converter between the values of an attribute and the values of a column. -/
structure Converter where
  name : String
  /-- The type that is stored. -/
  targetType : ValueType
deriving DecidableEq, Repr

structure IdField where
  name : String
  columnName : String
  type : ValueType
  limits : Option ColumnLimits := none
  converter : Option Converter := none
  /-- Whether the database produces the value. -/
  generated : Bool := false
deriving DecidableEq, Repr

def IdField.named (name : String) (type : ValueType) : IdField where
  name := name
  columnName := name
  type := type

structure Property where
  name : String
  columnName : String
  type : ValueType
  nullable : Bool := false
  limits : Option ColumnLimits := none
  converter : Option Converter := none
deriving DecidableEq, Repr

def Property.named (name : String) (type : ValueType) : Property where
  name := name
  columnName := name
  type := type

/-- How many entities stand on the two sides of an association. -/
inductive AssociationKind where
  | manyToOne
  | oneToOne
  | oneToMany
  | manyToMany
deriving DecidableEq, Repr

def AssociationKind.name : AssociationKind → String
  | .manyToOne => "MANY_TO_ONE"
  | .oneToOne => "ONE_TO_ONE"
  | .oneToMany => "ONE_TO_MANY"
  | .manyToMany => "MANY_TO_MANY"

/-- An association of an entity with a target entity. -/
structure Association where
  name : String
  target : EntityKey
  kind : AssociationKind
  targetId : IdField
  joinColumn : Option String := none
  /-- Whether this side stores the association. -/
  mapped : Bool := true
  /-- The property of the target that stores the association instead. -/
  mappedBy : Option String := none
  joinTable : Option String := none
deriving DecidableEq, Repr

namespace Association

/-- The association is stored by a property of its target. -/
def inverseOf (association : Association) (property : String) : Association :=
  { association with mapped := false, mappedBy := some property }

/-- Whether the association is stored as a column in the table of its own entity. -/
def ownsForeignKey (association : Association) : Bool :=
  match association.kind with
  | .manyToOne => true
  | .oneToOne => association.mapped
  | .oneToMany | .manyToMany => false

end Association

structure Entity where
  name : String
  qualifiedName : String
  table : String
  id : Option IdField := none
  properties : List Property := []
  associations : List Association := []
deriving DecidableEq, Repr

/-- The part of a name before its last dot, empty without a dot. -/
def packageOf (qualifiedName : String) : String :=
  String.ofList ((qualifiedName.toList.reverse.dropWhile (· ≠ '.')).drop 1).reverse

/-- The part of a name behind its last dot. -/
def lastSegment (qualifiedName : String) : String :=
  String.ofList (qualifiedName.toList.reverse.takeWhile (· ≠ '.')).reverse

namespace Entity

/-- An entity without members, named by the last part of its qualified name. -/
def named (qualifiedName table : String) : Entity where
  name := lastSegment qualifiedName
  qualifiedName := qualifiedName
  table := table

def key (entity : Entity) : EntityKey :=
  entity.qualifiedName

def package (entity : Entity) : String :=
  packageOf entity.qualifiedName

/-- The associations of a kind, in order. -/
def associationsOf (entity : Entity) (kind : AssociationKind) : List Association :=
  entity.associations.filter (·.kind = kind)

end Entity
end EntityTables
