import EntityTables.Column.Recipe
import EntityTables.Report
import EntityTables.Settings

/-!
# The columns of ids and properties

Ids and properties are both members of an entity with a value in a column; they differ in the
role of the column.  A member with a converter gets a column made by a wrapper, whatever its
type.  Any other member needs a native type, and an id one that can be a key.
-/

namespace EntityTables

/-- What a column is in its table. -/
inductive ColumnRole where
  | key (generated : Bool)
  | property (nullable : Bool)
deriving DecidableEq, Repr

/-- A member of an entity that is stored in one column. -/
structure Member where
  name : String
  columnName : String
  type : ValueType
  limits : Option ColumnLimits
  converter : Option Converter
  role : ColumnRole
deriving DecidableEq, Repr

def IdField.member (id : IdField) : Member where
  name := id.name
  columnName := id.columnName
  type := id.type
  limits := id.limits
  converter := id.converter
  role := .key id.generated

def Property.member (property : Property) : Member where
  name := property.name
  columnName := property.columnName
  type := property.type
  limits := property.limits
  converter := property.converter
  role := .property property.nullable

/-- The members of an entity: its id and its properties in order. -/
def Entity.members (entity : Entity) : List Member :=
  (entity.id.map IdField.member).toList ++ entity.properties.map Property.member

/-- The column kind of a native type; limits that are not given come from the settings. -/
def NativeType.columnKind (settings : Settings) (limits : Option ColumnLimits) :
    NativeType → ColumnKind
  | .string => .varchar ((limits.bind (·.length)).getD settings.varcharLength)
  | .long => .long
  | .int => .integer
  | .short => .short
  | .boolean => .bool
  | .float => .float
  | .double => .double
  | .bigDecimal =>
    .decimal ((limits.bind (·.precision)).getD settings.decimalPrecision)
      ((limits.bind (·.scale)).getD settings.decimalScale)
  | .uuid => .uuid
  | .dateTime => .dateTime
  | .localDateTime => .localDateTime
  | .zonedDateTime => .zonedDateTime

namespace Member

/-- The native type of a member without a converter. -/
def nativeType (member : Member) : Except EmissionError NativeType :=
  match member.role, member.type.native? with
  | .key _, some native =>
    if native.isKeyType then .ok native else .error (.idTypeNotSupported member.type)
  | .key _, none => .error (.idTypeNotSupported member.type)
  | .property _, some native => .ok native
  | .property _, none => .error (.propertyTypeNotSupported member.type)

/-- The kind of a member's column; `wrapper` is the name of the wrapper function that makes it,
if there is one. -/
def columnKind (settings : Settings) (member : Member) (wrapper : Option String) :
    Except EmissionError ColumnKind :=
  match wrapper with
  | some wrapper => .ok (.converted wrapper)
  | none => (NativeType.columnKind settings member.limits) <$> member.nativeType

/-- Whether the database is asked to generate values that it cannot count up. -/
def ignoresGenerated (member : Member) (kind : ColumnKind) : Bool :=
  match member.role with
  | .key generated => generated && !kind.isIntegral
  | .property _ => false

def recipeOf (member : Member) (kind : ColumnKind) : ColumnRecipe :=
  match member.role with
  | .key generated =>
    { kind, columnName := member.columnName, primaryKey := true,
      autoIncrement := generated && kind.isIntegral }
  | .property nullable => { kind, columnName := member.columnName, nullable }

@[simp] theorem recipeOf_kind (member : Member) (kind : ColumnKind) :
    (member.recipeOf kind).kind = kind := by
  unfold recipeOf
  split <;> rfl

/-- The columns of members refer to no other table. -/
@[simp] theorem recipeOf_references (member : Member) (kind : ColumnKind) :
    (member.recipeOf kind).references = none := by
  unfold recipeOf
  split <;> rfl

def recipe (settings : Settings) (member : Member) (wrapper : Option String) :
    Except EmissionError ColumnRecipe :=
  member.recipeOf <$> member.columnKind settings wrapper

def column (member : Member) (recipe : ColumnRecipe) : ColumnSpec where
  name := member.name
  valueType := member.type
  recipe := recipe

end Member
end EntityTables
